import PostSearch.Proofs.Query.CommentScope
import PostSearch.Proofs.Search.OwnFeeds
import PostSearch.Proofs.Search.Resolving
import PostSearch.Proofs.Search.Visible

/-! # Names that belong to nobody

A condition that asks for accounts and names nobody allows nothing. Open lists are intersected before
names become ids, so such a condition leaves a closed list of names without accounts whatever else
the query says of authors: no list of exceptions can open it again (`OpenList.Within`). Nothing is
left of it as ids, which makes the restriction `false`, and a conjunction with `false` in it is
`false` in a statement (`Restriction.IsVoid`).

Main statement: `compile_namesNobody` says what the statement finds, and that a condition that names
nobody makes no query fail. -/

namespace PostSearch

namespace OpenList

variable {α β γ : Type} {P : α → Prop} {a b : OpenList α}

/-! ### Closed lists -/

/-- The list is closed, and its items have the property. -/
def Within (P : α → Prop) (a : OpenList α) : Prop :=
  a.inclusive = true ∧ ∀ x ∈ a.items, P x

theorem Within.intersection_left [DecidableEq α] (h : a.Within P) (b : OpenList α) :
    (a.intersection b).Within P := by
  obtain ⟨ha, hitems⟩ := h
  unfold intersection
  rw [ha]
  cases b.inclusive with
  | true | false =>
      refine ⟨rfl, fun x hx => hitems x ?_⟩
      exact List.mem_of_mem_filter (mem_distinct.1 hx)

theorem Within.intersection_right [DecidableEq α] (h : b.Within P) (a : OpenList α) :
    (a.intersection b).Within P := by
  obtain ⟨hb, hitems⟩ := h
  unfold intersection
  rw [hb]
  cases a.inclusive with
  | true =>
      refine ⟨rfl, fun x hx => hitems x ?_⟩
      have hmem := (List.mem_filter.1 (mem_distinct.1 hx)).2
      simpa using hmem
  | false =>
      refine ⟨rfl, fun x hx => hitems x ?_⟩
      exact List.mem_of_mem_filter (mem_distinct.1 hx)

/-- An intersection of several lists is within what one of them is within. -/
theorem within_foldl [DecidableEq α] {f : γ → OpenList α} {x : γ} (h : (f x).Within P) :
    ∀ {xs : List γ}, x ∈ xs → ∀ start : OpenList α,
      (xs.foldl (fun allowed x => allowed.intersection (f x)) start).Within P
  | y :: ys, hx, start => by
      rw [List.foldl_cons]
      rcases List.mem_cons.1 hx with rfl | hx
      · refine List.foldlRecOn ys _ (h.intersection_right start) ?_
        intro allowed hallowed y _
        exact hallowed.intersection_left (f y)
      · exact within_foldl h hx _

theorem Within.filterMap_eq_empty [DecidableEq β] {f : α → Option β} (h : a.Within P)
    (hf : ∀ x, P x → f x = none) : a.filterMap f = empty := by
  have hnone : a.items.filterMap f = [] :=
    List.filterMap_eq_nil_iff.2 fun x hx => hf x (h.2 x hx)
  unfold OpenList.filterMap
  rw [hnone, h.1]
  rfl

theorem empty_intersection [DecidableEq α] (b : OpenList α) : empty.intersection b = empty := by
  unfold intersection empty
  cases b.inclusive <;> rfl

end OpenList

namespace Sql

variable {ν μ : Type}

/-! ### Restrictions that nothing passes -/

/-- The restriction is `false`, or asks for something that is. -/
inductive Restriction.IsVoid : Restriction ν → Prop
  | const : IsVoid (.const false)
  | all {f : Restriction ν} {fs : List (Restriction ν)} (mem : f ∈ fs) (void : f.IsVoid) :
      IsVoid (.all fs)

namespace Restriction.IsVoid

theorem of_map {h : ν → μ} {g : Restriction μ} (hg : g.IsVoid) :
    ∀ {f : Restriction ν}, f.map h = g → f.IsVoid := by
  induction hg with
  | const =>
      intro f e
      cases f with
      | const b =>
          obtain rfl := Restriction.const.inj e
          exact .const
      | _ => cases e
  | @all f' gs mem _ ih =>
      intro f e
      cases f with
      | all fs =>
          obtain rfl := Restriction.all.inj e
          rw [mapAll_eq] at mem
          obtain ⟨f, hf, e⟩ := List.mem_map.1 mem
          exact .all hf (ih e)
      | _ => cases e

theorem map (h : ν → μ) {f : Restriction ν} (hf : f.IsVoid) : (f.map h).IsVoid := by
  induction hf with
  | const => exact .const
  | all mem _ ih =>
      rw [Restriction.map, mapAll_eq]
      exact .all (List.mem_map_of_mem mem) ih

theorem text_eq {f : Restriction Placeholder} (hf : f.IsVoid) : f.text = "false" := by
  induction hf with
  | const => rfl
  | @all f fs mem _ ih =>
      rw [Restriction.text, texts_eq]
      refine conjoin_eq_false ?_
      rw [← ih]
      exact List.mem_map_of_mem mem

theorem of_values {h : ν → μ} {k : Datum → μ} {f : Restriction ν} {g : Restriction Datum}
    (hg : g.IsVoid) (e : f.map h = g.map k) : f.IsVoid :=
  of_map (hg.map k) e

end Restriction.IsVoid

end Sql

namespace Clause

open Query Sql

variable {site : Site} {accounts accounts' : Accounts} {tokens : List Token} {c : Condition}

/-! ### Conditions that allow nobody -/

theorem allowedByAll_within {o : Operator} {P : String → Prop} (hc : c ∈ conditionsOf o tokens)
    (hasked : c.excluded = false) (h : ∀ arg ∈ c.args, P arg) :
    (allowedByAll o tokens).Within P := by
  have hallowed : (allowedNames c).Within P := by
    refine ⟨?_, fun arg harg => h arg (mem_distinct.1 harg)⟩
    show (!c.excluded) = true
    rw [hasked]
    rfl
  exact OpenList.within_foldl hallowed hc _

theorem idsOf_eq_empty {o : Operator} (hc : c ∈ conditionsOf o tokens) (hasked : c.excluded = false)
    (h : ∀ arg ∈ c.args, accounts.find? arg = none) :
    idsOf (allowedByAll o tokens) accounts = .empty := by
  have hwithin := allowedByAll_within (P := fun arg => accounts.find? arg = none) hc hasked h
  refine hwithin.filterMap_eq_empty fun name hname => ?_
  rw [hname]
  rfl

theorem restrictAuthors_empty (viewer : Option String) (conditions : List Condition) :
    restrictAuthors viewer .empty conditions = .empty := by
  refine List.foldl_fixed' (fun c => ?_) conditions
  split
  · exact OpenList.empty_intersection _
  · rfl

/-- The feeds of nobody are none, and the site is not asked for them. -/
theorem feedSet_eq_empty (site : Site) (ho : c.operator.takesAccounts = true)
    (h : ∀ arg ∈ c.args, accounts.find? arg = none) :
    feedSet site accounts c = .ok ⟨[], !c.excluded, List.nodup_nil⟩ := by
  have howners : (distinct c.args).filterMap accounts.find? = [] :=
    List.filterMap_eq_nil_iff.2 fun arg harg => h arg (mem_distinct.1 harg)
  unfold feedSet sources
  rw [howners]
  cases hc : c.operator <;> rw [hc] at ho <;> first | rfl | cases ho

theorem feedRestriction_empty (ho : c.operator.takesAccounts = true) (viewer : Option String) :
    feedRestriction viewer c .empty = .const false := by
  have hnames : namesDiscussions c = false := by
    unfold namesDiscussions
    cases hc : c.operator <;> rw [hc] at ho <;> first | rfl | cases ho
  unfold feedRestriction
  rw [hnames]
  cases viewer <;> rfl

/-! ### Accounts that are found alike -/

theorem sources_congr (h : accounts.find? = accounts'.find?) :
    sources accounts = sources accounts' := by
  unfold sources
  rw [h]

theorem feedSet_congr (h : accounts.find? = accounts'.find?) :
    feedSet site accounts = feedSet site accounts' := by
  unfold feedSet
  rw [sources_congr h]

end Clause

namespace Search

open Query Sql Clause

variable {site : Site} {options : Options} {tokens named pre post : List Token}
  {compiled : Compiled} {viewer : Option Account} {names : List String} {c k : Condition}

/-! ### Names without accounts -/

/-- No argument of the condition is the name of an account, once the viewer's name is written out.
-/
def NamesNobody (site : Site) (viewer : Option Account) (c : Condition) : Prop :=
  ∃ d, nameViewer viewer c = .ok d ∧ ∀ arg ∈ d.args, site.accountByName? arg = none

/-- A condition that names nobody does not name the viewer either. -/
theorem NamesNobody.unnamed (ho : c.operator.takesAccounts = true)
    (h : NamesNobody site (options.viewer.bind site.accountById?) c) :
    nameViewer (options.viewer.bind site.accountById?) c = .ok c ∧
      ∀ arg ∈ c.args, arg ≠ viewerName ∧ site.accountByName? arg = none := by
  obtain ⟨d, hd, hunknown⟩ := h
  have haccounts := takesAccounts_iff.1 ho
  cases hviewer : options.viewer.bind site.accountById? with
  | none =>
      rw [hviewer] at hd
      obtain ⟨rfl, hnot⟩ := nameViewer_none_ok hd
      exact ⟨hd, fun arg harg => ⟨fun e => hnot ⟨haccounts, e ▸ harg⟩, hunknown arg harg⟩⟩
  | some me =>
      rw [hviewer, nameViewer_some] at hd
      cases hd
      have hme : viewerName ∉ c.args := by
        intro hme
        -- The viewer's username is an argument now, but it is the name of an account.
        have hwritten : me.username ∈ (c.written me.username).args := by
          rw [Condition.written_args haccounts]
          exact List.mem_map.2 ⟨_, hme, if_pos rfl⟩
        have hknown := accountByName?_isSome (mem_viewerAccount hviewer)
        rw [hunknown _ hwritten] at hknown
        cases hknown
      rw [Condition.written_of_notMem hme] at hunknown
      rw [nameViewer_some, Condition.written_of_notMem hme]
      exact ⟨rfl, fun arg harg => ⟨fun e => hme (e ▸ harg), hunknown arg harg⟩⟩

/-- No account is found by such a name, whichever names are looked up. -/
theorem find?_eq_none {name : String} (hme : name ≠ viewerName)
    (h : site.accountByName? name = none) : (accountsOf site viewer names).find? name = none := by
  rw [find?_accountsOf, if_neg hme, h, ite_self]

/-- Looking up more names makes no difference if they belong to nobody. -/
theorem find?_more (site : Site) (viewer : Option Account) {more : List String}
    (hmore : ∀ x ∈ more, site.accountByName? x = none)
    {names' : List String} (h : ∀ x, x ∈ names' ↔ x ∈ names ∨ x ∈ more) :
    (accountsOf site viewer names').find? = (accountsOf site viewer names).find? := by
  funext name
  rw [find?_accountsOf, find?_accountsOf]
  by_cases hname : name ∈ names
  · rw [if_pos hname, if_pos ((h name).2 (Or.inl hname))]
  · by_cases hnew : name ∈ more
    · rw [if_pos ((h name).2 (Or.inr hnew)), if_neg hname, hmore name hnew]
    · have hnot : name ∉ names' := fun hmem => ((h name).1 hmem).elim hname hnew
      rw [if_neg hname, if_neg hnot]

/-! ### Tokens that are not named otherwise -/

theorem NamedBy.eq_condition {u : Token} (h : NamedBy viewer (.condition c) u)
    (hc : nameViewer viewer c = .ok c) : u = .condition c := by
  cases h with
  | condition hd =>
      rw [hc] at hd
      cases hd
      rfl
  | other => rfl

theorem mem_named (h : nameViewerIn viewer tokens = .ok named)
    (hc : nameViewer viewer c = .ok c) (hmem : .condition c ∈ tokens) : .condition c ∈ named := by
  obtain ⟨u, hu, hnamed⟩ := exists_of_mem_right (nameViewerIn_namedBy h).flip hmem
  rwa [← NamedBy.eq_condition hnamed hc]

theorem mem_inScope_named (h : nameViewerIn viewer tokens = .ok named)
    (hc : nameViewer viewer c = .ok c) {s : Scope} (hmem : .condition c ∈ inScope s tokens) :
    .condition c ∈ inScope s named := by
  obtain ⟨⟨t, s'⟩, hp, ht⟩ := List.mem_map.1 hmem
  obtain ⟨hp, hs⟩ := List.mem_filter.1 hp
  obtain rfl : t = .condition c := ht
  have hwalk := withScopeFrom_named (fun _ _ => NamedBy.namedAs) (nameViewerIn_namedBy h) .all
  obtain ⟨q, hq, hnamed, hscope⟩ := exists_of_mem_right hwalk.flip hp
  refine List.mem_map.2 ⟨q, List.mem_filter.2 ⟨hq, ?_⟩, NamedBy.eq_condition hnamed hc⟩
  rwa [← hscope]

/-! ### What a statement finds -/

theorem authorRestriction_isVoid (column : String) :
    (authorRestriction column .empty).IsVoid :=
  .const

/-- The rows of all selections are void if that is asked of posts by either selection. -/
theorem Parts.rows_isVoid {p : Parts Placeholder} {sort : SortKey} {byPosts : Bool}
    (h : p.common.IsVoid ∨ p.ownOfPosts.IsVoid ∧ p.ownOfComments.IsVoid) :
    ∀ s ∈ (p.statement sort byPosts).selections, s.rows.IsVoid := by
  intro s hs
  rcases h with h | ⟨hposts, hcomments⟩
  · have hcommon : p.common ∈ [p.common] := List.mem_singleton_self _
    rcases Parts.mem_selections.1 hs with ⟨-, rfl⟩ | ⟨-, rfl⟩
    · exact .all (List.mem_cons_of_mem _ hcommon) h
    · exact .all (List.mem_cons_of_mem _ hcommon) h
  · rcases Parts.mem_selections.1 hs with ⟨-, rfl⟩ | ⟨-, rfl⟩
    · exact .all List.mem_cons_self hposts
    · exact .all List.mem_cons_self hcomments

namespace Assembly

/-- A condition that allows no author of posts leaves nothing of any selection. -/
theorem common_isVoid (a : Assembly site options tokens compiled)
    (h : a.clauses.postAuthors = .empty) : a.parts.common.IsVoid := by
  have hauthors : a.parts.postAuthors.IsVoid := by
    refine .of_values (authorRestriction_isVoid "p.user_id") (h := compiled.params.value?)
      (k := some) ?_
    rw [← h]
    exact congrArg Parts.postAuthors a.bound.values
  exact .all List.mem_cons_self hauthors

/-- A condition that allows no author of texts leaves nothing of either selection. -/
theorem own_isVoid (a : Assembly site options tokens compiled)
    (h : a.clauses.textAuthors = .empty) :
    a.parts.ownOfPosts.IsVoid ∧ a.parts.ownOfComments.IsVoid := by
  have hvoid : ∀ column (other : Restriction Datum),
      (Restriction.all [authorRestriction column a.clauses.textAuthors, other]).IsVoid := by
    intro column other
    rw [h]
    exact .all List.mem_cons_self (authorRestriction_isVoid column)
  have hposts : a.parts.postTextAuthors.IsVoid :=
    .of_values (hvoid _ _) (congrArg Parts.postTextAuthors a.bound.values)
  have hcomments : a.parts.commentTextAuthors.IsVoid :=
    .of_values (hvoid _ _) (congrArg Parts.commentTextAuthors a.bound.values)
  exact ⟨.all (List.mem_cons_of_mem _ List.mem_cons_self) hposts,
    .all (List.mem_cons_of_mem _ List.mem_cons_self) hcomments⟩

theorem feeds_isVoid (a : Assembly site options tokens compiled)
    (hfeeds : feedSets site (accountsOf site (options.viewer.bind site.accountById?)
      (accountNames a.named)) (feedConditions a.named) = .ok a.feeds)
    (hc : c ∈ feedConditions a.named) (ho : c.operator.takesAccounts = true)
    (hset : feedSet site (accountsOf site (options.viewer.bind site.accountById?)
      (accountNames a.named)) c = .ok .empty) : a.parts.feeds.IsVoid := by
  obtain ⟨⟨c', set⟩, hmem, hc', hset'⟩ := exists_of_mem_right (feedSets_ok hfeeds).flip hc
  obtain rfl : c' = c := hc'
  obtain rfl : OpenList.empty = set := Except.ok.inj (hset.symm.trans hset')
  have hvoid : a.clauses.feeds.IsVoid := by
    rw [(clauses_ok a.building).feeds]
    refine .all (List.mem_map_of_mem hmem) ?_
    dsimp only
    rw [feedRestriction_empty ho]
    exact .const
  exact .of_values hvoid (congrArg Parts.feeds a.bound.values)

/-- Where all selections are void, that is what their members say. -/
theorem whereTexts_of_isVoid (a : Assembly site options tokens compiled)
    (hpost : site.postRule = none) (hcomment : site.commentRule = none)
    (h : ∀ s ∈ compiled.statement.selections, s.rows.IsVoid) :
    unionMembers compiled.statement.text ≠ [] ∧
      ∀ m ∈ unionMembers compiled.statement.text, whereTexts m = ["false"] := by
  rw [Statement.unionMembers_text (a.inline hpost hcomment) a.selections_ne_nil]
  refine ⟨by simpa using a.selections_ne_nil, fun m hm => ?_⟩
  obtain ⟨s, hs, rfl⟩ := List.mem_map.1 hm
  rw [Selection.whereTexts_lines, (h s hs).text_eq]

end Assembly

/-- A statement on feeds that hold nothing begins with the common table that says so. -/
theorem text_of_isVoid {s : Statement} (h : s.feeds.IsVoid) : ∃ rest, s.text =
    "with posts as materialized (select * from posts p where false)\n" ++ rest := by
  have htable : s.commonTable =
      ["with posts as materialized (select * from posts p where false)"] := by
    unfold Statement.commonTable
    rw [h.text_eq]
    rfl
  refine ⟨linesText [Text.joinWith "\nunion\n" (s.selections.map Selection.text), s.page], ?_⟩
  show linesText (s.commonTable ++ _) = _
  rw [htable]
  rfl

/-- Some condition of the operator asks for accounts, and names nobody. -/
def AsksForNobody (site : Site) (viewer : Option Account) (o : Operator) (tokens : List Token) :
    Prop :=
  ∃ c ∈ conditionsOf o tokens, c.excluded = false ∧ NamesNobody site viewer c

/-- Such a condition stands among the named tokens as it was written, if others like it do. -/
theorem AsksForNobody.exists_named {o : Operator} {ts us : List Token}
    (h : AsksForNobody site (options.viewer.bind site.accountById?) o ts)
    (ho : o.takesAccounts = true)
    (hkept : ∀ {c}, nameViewer (options.viewer.bind site.accountById?) c = .ok c →
      .condition c ∈ ts → .condition c ∈ us) (names : List String) :
    ∃ c ∈ conditionsOf o us, c.excluded = false ∧ ∀ arg ∈ c.args,
      (accountsOf site (options.viewer.bind site.accountById?) names).find? arg = none := by
  obtain ⟨c, hc, hasked, hnobody⟩ := h
  obtain ⟨hmem, rfl⟩ := mem_conditionsOf.1 hc
  obtain ⟨hplain, hunknown⟩ := hnobody.unnamed ho
  refine ⟨c, mem_conditionsOf.2 ⟨hkept hplain hmem, rfl⟩, hasked, fun arg harg => ?_⟩
  exact find?_eq_none (hunknown arg harg).1 (hunknown arg harg).2

/-! ### One more condition -/

theorem conditionsOf_insert {o : Operator} (ho : k.operator ≠ o) (xs ys : List Token) :
    conditionsOf o (xs ++ .condition k :: ys) = conditionsOf o (xs ++ ys) := by
  simp only [conditionsOf, List.filterMap_append, List.filterMap_cons, if_neg ho]

theorem conditionsOf_inScope_insert {o : Operator} (ho : k.operator ≠ o) (s : Scope)
    (xs ys : List Token) :
    conditionsOf o (inScope s (xs ++ .condition k :: ys)) = conditionsOf o (inScope s (xs ++ ys)) := by
  unfold inScope withScope
  rw [withScopeFrom_append, withScopeFrom_append, withScopeFrom, List.filter_append,
    List.filter_append, List.map_append, List.map_append, List.filter_cons]
  · split
    · exact conditionsOf_insert ho _ _
    · rfl
  · simp
  · simp

/-- Whether clauses can be built is a matter of the conditions on intervals. -/
theorem clauses_agree {ts us : List Token}
    (hall : ∀ o : Operator, o.takesInterval = true → conditionsOf o us = conditionsOf o ts)
    (hscope : ∀ o : Operator, o.takesInterval = true → ∀ s,
      conditionsOf o (inScope s us) = conditionsOf o (inScope s ts))
    (accounts accounts' : Accounts) (sets sets' : List (Condition × OpenList Int)) :
    Agree (fun _ _ => True) (clauses ts accounts sets) (clauses us accounts' sets') := by
  unfold clauses contentDates postDates counters
  simp only [hscope .contentDate rfl, hall .postDate rfl, hall .commentCount rfl,
    hall .likeCount rfl, hall .commentLikeCount rfl]
  iterate 8 refine Agree.bind (Agree.refl (R := Eq) (fun _ => rfl) _) fun _ _ _ => ?_
  exact .ok trivial

theorem check_insert {key : SortKey} (h : check options (pre ++ post) = .ok key)
    (hk : k.operator ≠ .inMy)
    (hle : complexity (pre ++ .condition k :: post) ≤ options.maxComplexity) :
    check options (pre ++ .condition k :: post) = .ok key := by
  have hany : (pre ++ .condition k :: post).any (·.isCondition .inMy) =
      (pre ++ post).any (·.isCondition .inMy) := by
    have hfalse : (Token.condition k).isCondition .inMy = false := beq_false_of_ne hk
    rw [List.any_append, List.any_append, List.any_cons, hfalse, Bool.false_or]
  unfold check at h ⊢
  rw [if_neg (not_lt.2 hle), hany]
  split at h
  · cases h
  · exact h

/-- A condition that is not named otherwise stands between the parts as they are named. -/
theorem nameViewerIn_insert (hk : nameViewer viewer k = .ok k)
    (h : nameViewerIn viewer (pre ++ post) = .ok named) : ∃ pre' post', named = pre' ++ post' ∧
      nameViewerIn viewer (pre ++ .condition k :: post) = .ok (pre' ++ .condition k :: post') := by
  rw [nameViewerIn_append] at h
  obtain ⟨pre', hpre, h⟩ := bind_eq_ok.1 h
  obtain ⟨post', hpost, h⟩ := bind_eq_ok.1 h
  refine ⟨pre', post', (Except.ok.inj h).symm, ?_⟩
  have hcons : nameViewerIn viewer (.condition k :: post) = .ok (.condition k :: post') := by
    unfold nameViewerIn at hpost ⊢
    rw [List.mapM_cons]
    dsimp only
    rw [hk, hpost]
    rfl
  rw [nameViewerIn_append, hpre, hcons]
  rfl

theorem mem_accountNames_insert (ho : k.operator.takesAccounts = true) (xs ys : List Token)
    (x : String) : x ∈ accountNames (xs ++ .condition k :: ys) ↔
      x ∈ accountNames (xs ++ ys) ∨ x ∈ k.args := by
  unfold accountNames
  simp only [mem_distinct, List.flatMap_append, List.flatMap_cons, List.mem_append, if_pos ho]
  rw [or_assoc, or_comm (a := x ∈ k.args)]

theorem feedSets_insert {xs ys : List Token} {accounts accounts' : Accounts}
    {sets : List (Condition × OpenList Int)} (ho : k.operator.takesAccounts = true)
    (hunknown : ∀ arg ∈ k.args, accounts'.find? arg = none)
    (hfind : accounts'.find? = accounts.find?)
    (h : feedSets site accounts (feedConditions (xs ++ ys)) = .ok sets) :
    ∃ sets', feedSets site accounts' (feedConditions (xs ++ .condition k :: ys)) = .ok sets' := by
  refine feedSets_isOk_of fun c hc => ?_
  obtain ⟨hmem, hfeed⟩ := mem_feedConditions.1 hc
  by_cases hck : c = k
  · rw [hck]
    exact ⟨_, feedSet_eq_empty _ ho hunknown⟩
  · have hold : c ∈ feedConditions (xs ++ ys) := by
      refine mem_feedConditions.2 ⟨?_, hfeed⟩
      simpa [hck] using hmem
    obtain ⟨p, -, -, hset⟩ := exists_of_mem_right (feedSets_ok h).flip hold
    rw [feedSet_congr hfind]
    exact ⟨_, hset⟩

/-- A condition that names nobody makes no query fail but by its cost. -/
theorem compile_insert (h : (compile site options (pre ++ post)).result = .ok compiled)
    (ho : k.operator.takesAccounts = true)
    (hk : NamesNobody site (options.viewer.bind site.accountById?) k)
    (hle : complexity (pre ++ .condition k :: post) ≤ options.maxComplexity) :
    ∃ more, (compile site options (pre ++ .condition k :: post)).result = .ok more := by
  obtain ⟨a, hfeeds⟩ := compile_ok_feeds h
  obtain ⟨hplain, hunknown⟩ := hk.unnamed ho
  have hinterval : ∀ o : Operator, o.takesInterval = true → k.operator ≠ o := by
    rintro o hi rfl
    rw [takesAccounts_of_takesInterval hi] at ho
    cases ho
  have hmy : k.operator ≠ .inMy := by
    intro e
    rw [e] at ho
    cases ho
  obtain ⟨pre', post', hnamed, hname⟩ := nameViewerIn_insert hplain a.naming
  have hbuilding := a.building
  rw [hnamed] at hfeeds hbuilding
  have hfind := find?_more site (options.viewer.bind site.accountById?)
    (fun x hx => (hunknown x hx).2) (mem_accountNames_insert ho pre' post')
  obtain ⟨sets, hsets⟩ := feedSets_insert ho
    (fun x hx => find?_eq_none (hunknown x hx).1 (hunknown x hx).2) hfind hfeeds
  have hagree := clauses_agree (fun o hi => conditionsOf_insert (hinterval o hi) pre' post')
    (fun o hi s => conditionsOf_inScope_insert (hinterval o hi) s pre' post')
  obtain ⟨built, hbuilt, -⟩ := (hagree _ _ _ _).exists_ok hbuilding
  exact exists_compiled (check_insert a.checked hmy hle) hname hsets hbuilt

/-- If a condition asks for authors and names nobody, all members of the statement find nothing; if
one asks for feeds and names nobody, the statement begins with a table that holds nothing. Whatever
else is in the query, and such a condition, asked for or excluded, may be added at any place without
making it fail, as far as its cost is allowed. -/
theorem compile_namesNobody (hpost : site.postRule = none) (hcomment : site.commentRule = none)
    (h : (compile site options tokens).result = .ok compiled) :
    (AsksForNobody site (options.viewer.bind site.accountById?) .postBy tokens ∨
        AsksForNobody site (options.viewer.bind site.accountById?) .textBy (inScope .all tokens) →
      unionMembers compiled.statement.text ≠ [] ∧
        ∀ m ∈ unionMembers compiled.statement.text, whereTexts m = ["false"]) ∧
    ((∃ o ∈ [.inFeed, .commentedBy, .likedBy, .sentTo],
        AsksForNobody site (options.viewer.bind site.accountById?) o tokens) →
      ∃ rest, compiled.statement.text =
        "with posts as materialized (select * from posts p where false)\n" ++ rest) ∧
    ∀ pre post k, tokens = pre ++ post → k.operator.takesAccounts = true →
      NamesNobody site (options.viewer.bind site.accountById?) k →
      complexity (pre ++ .condition k :: post) ≤ options.maxComplexity →
      ∃ more, (compile site options (pre ++ .condition k :: post)).result = .ok more := by
  obtain ⟨a, hfeeds⟩ := compile_ok_feeds h
  have hbuilt := clauses_ok a.building
  refine ⟨fun hnobody => a.whereTexts_of_isVoid hpost hcomment ?_, ?_, ?_⟩
  · rw [a.statement]
    refine Parts.rows_isVoid ?_
    rcases hnobody with hnobody | hnobody
    · obtain ⟨c, hc, hasked, hfind⟩ := hnobody.exists_named rfl (mem_named a.naming)
        (accountNames a.named)
      refine Or.inl (a.common_isVoid ?_)
      have hids := idsOf_eq_empty hc hasked hfind
      rw [hbuilt.postAuthors, Clause.postAuthors, hids, restrictAuthors_empty]
    · obtain ⟨c, hc, hasked, hfind⟩ := hnobody.exists_named rfl
        (fun hplain => mem_inScope_named a.naming hplain) (accountNames a.named)
      refine Or.inr (a.own_isVoid ?_)
      rw [hbuilt.textAuthors]
      exact idsOf_eq_empty hc hasked hfind
  · rintro ⟨o, ho, hnobody⟩
    have hfeed : ∀ o ∈ [Operator.inFeed, .commentedBy, .likedBy, .sentTo],
        o.takesAccounts = true ∧ isFeedOperator o = true := by
      decide
    have htakes := hfeed o ho
    obtain ⟨c, hc, hasked, hfind⟩ := hnobody.exists_named htakes.1 (mem_named a.naming)
      (accountNames a.named)
    obtain ⟨hmem, rfl⟩ := mem_conditionsOf.1 hc
    have hset := feedSet_eq_empty site htakes.1 hfind
    rw [hasked] at hset
    have hvoid := a.feeds_isVoid hfeeds (mem_feedConditions.2 ⟨hmem, htakes.2⟩) htakes.1 hset
    refine text_of_isVoid ?_
    rw [a.statement]
    exact hvoid
  · rintro pre post k rfl ho hk hle
    exact compile_insert h ho hk hle

/-- Texts that are not by the first account, by somebody and liked by somebody of no account. -/
def byNobody : List Token :=
  [.sequence [[⟨false, false, "cat"⟩]], .condition ⟨true, .postBy, ["alice"]⟩,
    .condition ⟨false, .postBy, ["nobody", "nessie"]⟩, .condition ⟨false, .likedBy, ["nobody"]⟩]

theorem compile_byNobody : ∃ compiled,
    (compile Site.small asFirst byNobody).result = .ok compiled ∧
    (unionMembers compiled.statement.text ≠ [] ∧
      ∀ m ∈ unionMembers compiled.statement.text, whereTexts m = ["false"]) ∧
    (∃ rest, compiled.statement.text =
      "with posts as materialized (select * from posts p where false)\n" ++ rest) ∧
    ∃ more, (compile Site.small asFirst
      (byNobody ++ [.condition ⟨true, .textBy, ["nobody"]⟩])).result = .ok more := by
  obtain ⟨compiled, h⟩ := exists_eq_ok (x := (compile Site.small asFirst byNobody).result)
    (by decide +kernel)
  have hunknown : ∀ name ∈ ["nobody", "nessie"], Site.small.accountByName? name = none := by
    decide +kernel
  have hnobody : ∀ name ∈ ["nobody"], Site.small.accountByName? name = none := by
    decide +kernel
  obtain ⟨hauthors, hfeeds, hmore⟩ := compile_namesNobody rfl rfl h
  refine ⟨compiled, h, hauthors (Or.inl ⟨⟨false, .postBy, ["nobody", "nessie"]⟩, ?_, rfl, ?_⟩),
    hfeeds ⟨.likedBy, ?_, ⟨false, .likedBy, ["nobody"]⟩, ?_, rfl, ?_⟩,
    hmore byNobody [] ⟨true, .textBy, ["nobody"]⟩ (List.append_nil _).symm rfl ?_ ?_⟩
  · decide
  · exact ⟨_, rfl, hunknown⟩
  · decide
  · decide
  · exact ⟨_, rfl, hnobody⟩
  · exact ⟨_, rfl, hnobody⟩
  · decide

end Search

end PostSearch
