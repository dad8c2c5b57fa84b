import PostSearch.Clause.Feeds
import PostSearch.Clause.Intervals
import PostSearch.Clause.Posts
import PostSearch.Proofs.Except
import PostSearch.Proofs.Query.Likeness
import PostSearch.Proofs.Sql.Alike

/-! # Clauses of alike queries

The clauses of alike queries have one shape: they differ in their operands only. Clauses without
values of the query are the same. -/

namespace PostSearch.Clause

open Query Sql

variable {ρ : String → String} {ts us : List Token} {c d : Condition}

/-- The two restrictions differ in their operands only. -/
abbrev SameShape (f g : Restriction Datum) : Prop :=
  f.shape = g.shape

theorem sameShape_all {fs gs : List (Restriction Datum)} (h : List.Forall₂ SameShape fs gs) :
    SameShape (.all fs) (.all gs) := by
  have hmap : fs.map Restriction.shape = gs.map Restriction.shape := by
    induction h with
    | nil => rfl
    | cons h _ ih => rw [List.map_cons, List.map_cons, h, ih]
  rw [SameShape, Restriction.shape_all, Restriction.shape_all, hmap]

/-! ### Texts -/

theorem leafQuery_like {l m : Leaf} (h : l.Like m) (a b : Datum) :
    (leafQuery a l).shape = (leafQuery b m).shape := by
  have hmode : matchMode l = matchMode m := by
    unfold matchMode
    rw [h.isPhrase, h.isStem]
  unfold leafQuery
  rw [h.excluded, hmode]
  rfl

theorem joined_like {α : Type} {R : α → α → Prop} {f g : α → TextQuery Datum}
    (hf : ∀ x y, R x y → (f x).shape = (g y).shape) (joint : TextJoint) {xs ys : List α}
    (h : List.Forall₂ R xs ys) :
    (TextQuery.joined joint (xs.map f)).shape = (TextQuery.joined joint (ys.map g)).shape := by
  have hmap : (xs.map f).map TextQuery.shape = (ys.map g).map TextQuery.shape := by
    induction h with
    | nil => rfl
    | cons h _ ih => rw [List.map_cons, List.map_cons, List.map_cons, List.map_cons, hf _ _ h, ih]
  rw [TextQuery.shape_joined, TextQuery.shape_joined, hmap]

theorem groupQuery_like {g h : Group} (likeness : g.Like h) (a b : Datum) :
    (groupQuery a g).shape = (groupQuery b h).shape :=
  joined_like (R := Leaf.Like) (fun _ _ hl => leafQuery_like hl a b) .any likeness

theorem plainQuery?_like {t u : Token} (h : t.Like ρ u) (a b : Datum) :
    Option.Rel (fun q r => q.shape = r.shape) (plainQuery? a t) (plainQuery? b u) := by
  cases h with
  | leaf h => exact .some (leafQuery_like h a b)
  | group h => exact .some (groupQuery_like h a b)
  | sequence h =>
      refine .some (joined_like (R := Group.Like) ?_ .adjacent h)
      exact fun _ _ hg => groupQuery_like hg a b
  | inScope _ h => exact .some (groupQuery_like h a b)
  | condition | scopeStart | pipe | plus => exact .none

theorem plainScopeQuery?_like (h : TokensLike ρ ts us) (a b : Datum) (s : Scope) :
    (plainScopeQuery? a ts s).map TextQuery.shape =
      (plainScopeQuery? b us s).map TextQuery.shape := by
  have hblocks : TokensLike ρ ((inScope s ts).filter isTextBlock)
      ((inScope s us).filter isTextBlock) := by
    refine List.rel_filter ?_ (inScope_like h s)
    intro t u h
    cases h <;> rfl
  have hqueries := List.rel_filterMap (R := Token.Like ρ) (fun t u h => plainQuery?_like h a b)
    hblocks
  unfold plainScopeQuery?
  generalize ((inScope s ts).filter isTextBlock).filterMap (plainQuery? a) = qs at hqueries ⊢
  generalize ((inScope s us).filter isTextBlock).filterMap (plainQuery? b) = rs at hqueries ⊢
  cases hqueries with
  | nil => rfl
  | cons hq hqs =>
      have hjoined := joined_like (fun _ _ h => h) .all (.cons hq hqs)
      simp only [List.map_id'] at hjoined
      exact congrArg some hjoined

/-! ### Intervals -/

theorem bounds_like (h : c.Like ρ d) (hi : c.operator.takesInterval = true) :
    Agree (fun b b' => BoundLike c.operator b.1 b'.1 ∧ BoundLike c.operator b.2 b'.2) (bounds c)
      (bounds d) := by
  have hargs := h.args
  rw [ArgsLike, if_pos hi] at hargs
  obtain ⟨l, u, m, v, hc, hd, hl, hu⟩ := hargs
  unfold bounds
  rw [hc, hd]
  exact .ok ⟨hl, hu⟩

theorem signed_like (h : c.Like ρ d) {f g : Restriction Datum} (hf : SameShape f g) :
    SameShape (signed c f) (signed d g) := by
  unfold signed
  rw [← h.excluded]
  split
  · rw [SameShape, Restriction.shape_not, Restriction.shape_not, hf]
  · exact hf

theorem dayBound_like {a b : String} (h : a = "" ↔ b = "") (column : String)
    (relation : Relation) :
    List.Forall₂ SameShape (dayBound column relation a) (dayBound column relation b) := by
  unfold dayBound
  by_cases ha : a = ""
  · rw [if_pos ha, if_pos (h.1 ha)]
    exact .nil
  · rw [if_neg ha, if_neg (mt h.2 ha)]
    exact .cons rfl .nil

theorem dayRestriction_like (column : String) (h : c.Like ρ d)
    (hi : c.operator.takesInterval = true) :
    Agree SameShape (dayRestriction column c) (dayRestriction column d) := by
  refine (bounds_like h hi).bind fun b b' hb => .ok (signed_like h (sameShape_all ?_))
  exact List.rel_append (dayBound_like hb.1.empty column .atLeast)
    (dayBound_like hb.2.empty column .below)

theorem countBound_of_isCount {bound : String} (h : IsCount bound) :
    ∃ n, countBound bound = .ok n ∧ (n = none ↔ bound = "") := by
  unfold countBound
  by_cases he : bound = ""
  · rw [if_pos he]
    exact ⟨none, rfl, by simp [he]⟩
  · obtain ⟨sign, digits, hn⟩ := h.resolve_left he
    obtain ⟨n, hn⟩ := hn.readInt
    rw [if_neg he, hn]
    exact ⟨some n, rfl, by simp [he]⟩

theorem countBound_like {o : Operator} {a b : String} (h : BoundLike o a b)
    (ho : o.takesCounts = true) :
    Agree (fun m n => m = none ↔ n = none) (countBound a) (countBound b) := by
  obtain ⟨m, hm, hm'⟩ := countBound_of_isCount (h.left ho)
  obtain ⟨n, hn, hn'⟩ := countBound_of_isCount (h.right ho)
  rw [hm, hn]
  exact .ok (hm'.trans (h.empty.trans hn'.symm))

theorem countsRestriction_like (column : String) {i j : Interval Int}
    (hl : i.lower = none ↔ j.lower = none) (hu : i.upper = none ↔ j.upper = none) :
    SameShape (countsRestriction column i) (countsRestriction column j) := by
  obtain ⟨l, u⟩ := i
  obtain ⟨m, v⟩ := j
  cases l <;> cases u <;> cases m <;> cases v <;> first | rfl | simp_all

theorem countRestriction_like (column : String) (h : c.Like ρ d)
    (hi : c.operator.takesInterval = true) (ho : c.operator.takesCounts = true) :
    Agree SameShape (countRestriction column c) (countRestriction column d) := by
  refine (bounds_like h hi).bind fun b b' hb => ?_
  refine (countBound_like hb.1 ho).bind fun l m hl => ?_
  refine (countBound_like hb.2 ho).bind fun u v hu => .ok (signed_like h ?_)
  exact countsRestriction_like column hl hu

theorem conditions_like {o : Operator}
    {build : Condition → Except IntervalError (Restriction Datum)}
    (hb : ∀ c d : Condition, c.Like ρ d → c.operator = o → Agree SameShape (build c) (build d))
    (h : TokensLike ρ ts us) :
    Agree SameShape (do return .all (← (conditionsOf o ts).mapM build))
      (do return .all (← (conditionsOf o us).mapM build)) := by
  refine Agree.bind (R := List.Forall₂ SameShape) ?_ fun fs gs h => .ok (sameShape_all h)
  exact Agree.mapM (fun c d h => hb c d h.1 h.2) (conditionsOf_like o h)

theorem contentDates_like (h : TokensLike ρ ts us) (column : String) (s : Scope) :
    Agree SameShape (contentDates ts column s) (contentDates us column s) :=
  conditions_like (fun _ _ hc ho => dayRestriction_like column hc (by rw [ho]; rfl))
    (inScope_like h s)

theorem postDates_like (h : TokensLike ρ ts us) (column : String) :
    Agree SameShape (postDates ts column) (postDates us column) :=
  conditions_like (fun _ _ hc ho => dayRestriction_like column hc (by rw [ho]; rfl)) h

theorem counters_like {o : Operator} (hi : o.takesInterval = true) (ho : o.takesCounts = true)
    (h : TokensLike ρ ts us) (column : String) :
    Agree SameShape (counters ts o column) (counters us o column) :=
  conditions_like
    (fun _ _ hc e => countRestriction_like column hc (by rw [e]; exact hi) (by rw [e]; exact ho)) h

/-! ### Attachments -/

theorem renamed_of_ne {type : String} (h : ∀ extension, type.toList ≠ '.' :: extension) :
    renamed ρ type = type := by
  unfold renamed
  split
  · rename_i extension he
    exact absurd he (h extension)
  · rfl

theorem renamed_of_eq {type : String} {extension : List Char}
    (h : type.toList = '.' :: extension) :
    (renamed ρ type).toList = '.' :: (ρ (String.ofList extension)).toList := by
  unfold renamed
  rw [h]
  exact String.toList_append

theorem renamed_injective (hρ : Function.Injective ρ) : Function.Injective (renamed ρ) := by
  intro s t h
  by_cases hs : ∃ e, s.toList = '.' :: e
  · obtain ⟨e, hs⟩ := hs
    have hs' := renamed_of_eq (ρ := ρ) hs
    by_cases ht : ∃ e, t.toList = '.' :: e
    · obtain ⟨e', ht⟩ := ht
      rw [h, renamed_of_eq ht, List.cons.injEq, String.toList_inj] at hs'
      have he := String.ofList_injective (hρ hs'.2)
      rw [← String.toList_inj, hs, ht, he]
    · rw [not_exists] at ht
      rw [h, renamed_of_ne ht] at hs'
      exact absurd hs' (ht _)
  · rw [not_exists] at hs
    rw [renamed_of_ne hs] at h
    by_cases ht : ∃ e, t.toList = '.' :: e
    · obtain ⟨e', ht⟩ := ht
      have ht' := renamed_of_eq (ρ := ρ) ht
      rw [← h] at ht'
      exact absurd ht' (hs _)
    · rw [not_exists] at ht
      rwa [renamed_of_ne ht] at h

theorem renamed_mediaKinds (ρ : String → String) : ∀ kind ∈ mediaKinds, renamed ρ kind = kind := by
  have h : ∀ kind ∈ mediaKinds, kind.toList.head? ≠ some '.' := by decide +kernel
  intro kind hk
  refine renamed_of_ne fun e he => h kind hk ?_
  rw [he]
  rfl

theorem mem_map_renamed (hρ : Function.Injective ρ) {kind : String} (h : renamed ρ kind = kind)
    {types : List String} : kind ∈ types.map (renamed ρ) ↔ kind ∈ types := by
  have hmem := List.mem_map_of_injective (renamed_injective hρ) (a := kind) (l := types)
  rwa [h] at hmem

theorem distinct_map {f : String → String} (hf : Function.Injective f) :
    ∀ xs : List String, distinct (xs.map f) = (distinct xs).map f
  | [] => rfl
  | x :: xs => by
      rw [List.map_cons, distinct, distinct, List.map_cons, distinct_map hf xs, List.filter_map]
      congr 3
      funext y
      simp only [Function.comp, hf.ne_iff, ne_eq]

theorem spellOutFile_renamed (hρ : Function.Injective ρ) (type : String) :
    spellOutFile (renamed ρ type) = (spellOutFile type).map (renamed ρ) := by
  have hfile : renamed ρ "file" = "file" := by
    have h : "file".toList.head? ≠ some '.' := by decide +kernel
    refine renamed_of_ne fun e he => h ?_
    rw [he]
    rfl
  have hmedia : mediaKinds.map (renamed ρ) = mediaKinds :=
    (List.map_congr_left (renamed_mediaKinds ρ)).trans (List.map_id _)
  unfold spellOutFile
  by_cases h : type = "file"
  · rw [h, hfile, if_pos rfl, hmedia]
  · have h' : renamed ρ type ≠ "file" := by
      rw [← hfile]
      exact (renamed_injective hρ).ne h
    rw [if_neg h, if_neg h']
    rfl

theorem hasType_renamed (table type : String) :
    SameShape (hasType table type) (hasType table (renamed ρ type)) := by
  by_cases h : ∃ e, type.toList = '.' :: e
  · obtain ⟨e, h⟩ := h
    unfold hasType
    rw [h, renamed_of_eq h]
    rfl
  · rw [not_exists] at h
    rw [renamed_of_ne h]

theorem hasAnyType_renamed (hρ : Function.Injective ρ) (table : String) (types : List String) :
    SameShape (hasAnyType table types) (hasAnyType table (types.map (renamed ρ))) := by
  have hall : mediaKinds.all (· ∈ types.map (renamed ρ)) = mediaKinds.all (· ∈ types) := by
    rw [Bool.eq_iff_iff, List.all_eq_true, List.all_eq_true]
    simp only [decide_eq_true_eq]
    refine forall₂_congr fun kind hk => ?_
    exact mem_map_renamed hρ (renamed_mediaKinds ρ kind hk)
  unfold hasAnyType
  rw [hall]
  split
  · rfl
  · rw [SameShape, Restriction.shape_someRow, Restriction.shape_someRow, Restriction.shape_any,
      Restriction.shape_any, List.map_map, List.map_map, List.map_map]
    exact congrArg (fun fs => Restriction.someRow (.any fs))
      (List.map_congr_left fun type _ => hasType_renamed table type)

theorem argsWhere_like (hρ : Function.Injective ρ) (excluded : Bool) {cs ds : List Condition}
    (h : List.Forall₂ (fun c d => Condition.Like ρ c d ∧ c.operator = .attachment) cs ds) :
    argsWhere excluded ds = (argsWhere excluded cs).map (List.map (renamed ρ)) := by
  have hpicked := List.rel_filter (p := (·.excluded == excluded)) (q := (·.excluded == excluded))
    (fun c d h => by simp only [h.1.excluded]) h
  unfold argsWhere
  generalize cs.filter (·.excluded == excluded) = cs' at hpicked ⊢
  generalize ds.filter (·.excluded == excluded) = ds' at hpicked ⊢
  have hargs : ds'.flatMap Condition.args = (cs'.flatMap Condition.args).map (renamed ρ) := by
    induction hpicked with
    | nil => rfl
    | cons h _ ih =>
        have ha := h.1.args
        rw [h.2, ArgsLike, if_neg (by decide), if_pos rfl] at ha
        rw [List.flatMap_cons, List.flatMap_cons, List.map_append, ih, ha]
  cases hpicked with
  | nil => rfl
  | cons =>
      dsimp only
      rw [hargs, distinct_map (renamed_injective hρ)]
      rfl

theorem bothParts_like {build : List String → Restriction Datum} {f : String → String}
    (hb : ∀ args, SameShape (build args) (build (args.map f)))
    (asked excluded : Option (List String)) :
    SameShape (bothParts build asked excluded)
      (bothParts build (asked.map (List.map f)) (excluded.map (List.map f))) := by
  refine sameShape_all (List.rel_append ?_ ?_)
  · cases asked with
    | none => exact .nil
    | some args => exact .cons (hb args) .nil
  · cases excluded with
    | none => exact .nil
    | some args =>
        refine .cons ?_ .nil
        rw [SameShape, Restriction.shape_not, Restriction.shape_not, hb args]

theorem attachments_like (hρ : Function.Injective ρ) (h : TokensLike ρ ts us) (table : String) :
    SameShape (attachments ts table) (attachments us table) := by
  have htypes : ∀ excluded, (argsWhere excluded (conditionsOf .attachment us)).map
      (fun args => distinct (args.flatMap spellOutFile)) =
      ((argsWhere excluded (conditionsOf .attachment ts)).map
        fun args => distinct (args.flatMap spellOutFile)).map (List.map (renamed ρ)) := by
    intro excluded
    rw [argsWhere_like hρ excluded (conditionsOf_like .attachment h), Option.map_map,
      Option.map_map]
    congr 1
    funext args
    simp only [Function.comp]
    rw [List.flatMap_map, ← distinct_map (renamed_injective hρ), List.map_flatMap]
    simp only [spellOutFile_renamed hρ]
  unfold attachments
  dsimp only
  rw [htypes, htypes]
  exact bothParts_like (hasAnyType_renamed hρ table) _ _

/-! ### Clauses without values of the query -/

theorem privacy_like (h : TokensLike ρ ts us) (table : String) :
    privacy ts table = privacy us table := by
  unfold privacy
  rw [conditionsOf_eq rfl (by decide) h]

theorem commentLikes_like (h : TokensLike ρ ts us) (column : String) (accounts : Accounts) :
    commentLikes ts column accounts = commentLikes us column accounts := by
  unfold commentLikes
  rw [conditionsOf_eq rfl (by decide) (inScope_like h .comments)]

theorem postAuthors_like (h : TokensLike ρ ts us) : postAuthors ts = postAuthors us := by
  unfold postAuthors allowedByAll
  rw [conditionsOf_eq rfl (by decide) h]

theorem textAuthors_like (h : TokensLike ρ ts us) (s : Scope) :
    textAuthors ts s = textAuthors us s := by
  unfold textAuthors allowedByAll
  rw [conditionsOf_eq rfl (by decide) (inScope_like h s)]

theorem feedConditions_like (h : TokensLike ρ ts us) : feedConditions ts = feedConditions us := by
  refine pickedConditions_eq (p := isFeedOperator) ?_ h
  intro o ho
  cases o <;> first | exact ⟨rfl, by decide⟩ | cases ho

end PostSearch.Clause
