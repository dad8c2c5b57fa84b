import PostSearch.Proofs.Query.Parsed
import PostSearch.Proofs.Search.Naming

/-! # When parsed queries are refused

A parsed query is compiled unless it is too complex, or says something of a viewer who is not there.
What is refused before the site is asked costs no lookup; a query that names the viewer costs the
one for the viewer's account.

Main statement: which of these cases a query is in, and what has been asked by then
(`compile_outcome`). Answers of the site are not taken for granted: that no lookup fails is supposed
of the lookups that are made (`Site.Answers`). -/

namespace PostSearch

open Query Sql Clause Search PostSearch.Interval

/-- The site has an answer to the question. -/
def Site.Answers (site : Site) : Lookup → Prop
  | .accountById _ | .accountsByName _ => True
  | .feedNumbers owners names =>
    (∀ name ∈ names, name ∉ site.unavailable) ∧
      ∃ numbers, site.feedNumbers owners names = .ok numbers
  | .subscribedNumbers reader => ∃ numbers, site.subscribedNumbers reader = .ok numbers

namespace Search

variable {site : Site} {accounts : Accounts} {tokens named : List Token} {c : Condition}
  {conditions : List Condition} {options : Options} {key : SortKey}

/-! ### What is refused -/

/-- The query is on feeds of the viewer. -/
def AsksOwnFeeds (tokens : List Token) : Prop :=
  ∃ c, .condition c ∈ tokens ∧ c.operator = .inMy

/-- The query names the viewer in a condition on accounts. -/
def NamesViewer (tokens : List Token) : Prop :=
  ∃ c, .condition c ∈ tokens ∧ c.operator.takesAccounts = true ∧ viewerName ∈ c.args

/-- The query means nothing without a viewer. -/
def ForViewer (tokens : List Token) : Prop :=
  AsksOwnFeeds tokens ∨ NamesViewer tokens

/-- The query is refused because there is no viewer. -/
def Outcome.NeedsViewer (o : Outcome) : Prop :=
  o.result = .error .signInForFeeds ∨ o.result = .error .signInForName

def Outcome.AsksNothing (o : Outcome) : Prop :=
  o.accountLookups = [] ∧ o.feedLookups = []

/-! ### The viewer's name -/

theorem nameViewer_isOk (viewer : Option Account)
    (h : viewer.isSome ∨ ¬ (c.operator.takesAccounts = true ∧ viewerName ∈ c.args)) :
    ∃ d, nameViewer viewer c = .ok d := by
  unfold nameViewer
  split
  · rename_i hnamed
    cases viewer with
    | none => exact absurd (by simpa using hnamed) (h.resolve_left nofun)
    | some a => exact ⟨_, rfl⟩
  · exact ⟨c, rfl⟩

theorem nameViewer_none (h : c.operator.takesAccounts = true ∧ viewerName ∈ c.args) :
    nameViewer none c = .error .signInForName := by
  unfold nameViewer
  rw [if_pos (by simpa using h)]

theorem nameViewerIn_isOk (viewer : Option Account) (h : viewer.isSome ∨ ¬ NamesViewer tokens) :
    ∃ named, nameViewerIn viewer tokens = .ok named := by
  refine mapM_isOk fun t ht => ?_
  split
  · rename_i c
    obtain ⟨d, hd⟩ := nameViewer_isOk viewer (h.imp_right fun h hc => h ⟨c, ht, hc⟩)
    exact ⟨_, map_eq_ok.2 ⟨d, hd, rfl⟩⟩
  · exact ⟨_, rfl⟩

theorem nameViewerIn_none (h : NamesViewer tokens) :
    nameViewerIn none tokens = .error .signInForName := by
  obtain ⟨c, hc, hnamed⟩ := h
  refine mapM_eq_error (fun t ht => ?_) ⟨.condition c, hc, ?_⟩
  · split
    · rename_i c
      by_cases hnamed : c.operator.takesAccounts = true ∧ viewerName ∈ c.args
      · exact Or.inr (by rw [nameViewer_none hnamed]; rfl)
      · obtain ⟨d, hd⟩ := nameViewer_isOk none (Or.inr hnamed)
        exact Or.inl ⟨_, map_eq_ok.2 ⟨d, hd, rfl⟩⟩
    · exact Or.inl ⟨_, rfl⟩
  · dsimp only
    rw [nameViewer_none hnamed]
    rfl

/-! ### Feeds -/

/-- Writing out the viewer's name leaves the conditions on the viewer's feeds. -/
theorem asksOwnFeeds_named (h : List.Forall₂ NamedAs tokens named) :
    (∃ c ∈ feedConditions named, c.operator = .inMy) ↔ AsksOwnFeeds tokens := by
  have hsame : ∀ c, c ∈ conditionsOf .inMy named ↔ c ∈ conditionsOf .inMy tokens := by
    rw [conditionsOf_named rfl h]
    exact fun _ => Iff.rfl
  simp only [mem_conditionsOf] at hsame
  constructor
  · rintro ⟨c, hc, hmy⟩
    exact ⟨c, (hsame c).1 ⟨(mem_feedConditions.1 hc).1, hmy⟩⟩
  · rintro ⟨c, hc⟩
    obtain ⟨hc, hmy⟩ := (hsame c).2 hc
    exact ⟨c, mem_feedConditions.2 ⟨hc, by rw [hmy]; rfl⟩, hmy⟩

/-- The site answers all questions on the feeds of the conditions. -/
def AnswersFeeds (site : Site) (accounts : Accounts) (conditions : List Condition) : Prop :=
  ∀ q ∈ feedLookups accounts conditions, site.Answers q

theorem numbers_isOk {source : FeedSource} (h : ∀ q ∈ source.lookup?, site.Answers q) :
    ∃ numbers, source.numbers site = .ok numbers := by
  unfold FeedSource.numbers
  split
  · rename_i owners names hq
    obtain ⟨havailable, numbers, hnumbers⟩ := h _ hq
    rw [if_neg, hnumbers]
    · exact ⟨numbers, rfl⟩
    · simpa using havailable
  · rename_i reader hq
    obtain ⟨numbers, hnumbers⟩ := h _ hq
    rw [hnumbers]
    exact ⟨numbers, rfl⟩
  · exact ⟨[], rfl⟩

/-- The feeds of a condition can be told, unless they are the viewer's and there is none. -/
theorem sources_isOk (h : c.operator ≠ .inMy ∨ (accounts.find? viewerName).isSome) :
    ∃ found, sources accounts c = .ok found := by
  unfold sources
  dsimp only
  split
  any_goals exact ⟨_, rfl⟩
  rename_i hmy
  obtain ⟨viewer, hviewer⟩ := Option.isSome_iff_exists.1 (h.resolve_left (absurd hmy))
  rw [hviewer]
  exact ⟨_, rfl⟩

theorem feedSet_isOk (h : AnswersFeeds site accounts conditions) (hc : c ∈ conditions)
    (hviewer : c.operator ≠ .inMy ∨ (accounts.find? viewerName).isSome) :
    ∃ set, feedSet site accounts c = .ok set := by
  obtain ⟨found, hfound⟩ := sources_isOk hviewer
  have hnumbers : ∀ source ∈ found, ∃ numbers, source.numbers site = .ok numbers := by
    refine fun source hsource => numbers_isOk fun q hq => h q ?_
    refine List.mem_flatMap.2 ⟨c, hc, ?_⟩
    rw [hfound]
    exact List.mem_filterMap.2 ⟨source, hsource, hq⟩
  obtain ⟨numbers, hnumbers⟩ := mapM_isOk hnumbers
  exact ⟨_, bind_eq_ok.2 ⟨found, hfound, bind_eq_ok.2 ⟨numbers, hnumbers, rfl⟩⟩⟩

theorem feedSet_noViewer (hmy : c.operator = .inMy) (hviewer : accounts.find? viewerName = none) :
    feedSet site accounts c = .error .noViewer := by
  unfold feedSet sources
  rw [hmy, hviewer]
  rfl

theorem feedSets_isOk_of (hset : ∀ c ∈ conditions, ∃ set, feedSet site accounts c = .ok set) :
    ∃ sets, feedSets site accounts conditions = .ok sets := by
  have hdirect : ∀ c ∈ conditions.filter (isDirect accounts),
      ∃ set, feedSet site accounts c = .ok set :=
    fun c hc => hset c (List.mem_of_mem_filter hc)
  have hpair : ∀ c ∈ conditions,
      ∃ pair, (feedSet site accounts c).map (fun feeds => (c, feeds)) = .ok pair := by
    intro c hc
    obtain ⟨set, hset⟩ := hset c hc
    exact ⟨_, map_eq_ok.2 ⟨set, hset, rfl⟩⟩
  obtain ⟨sets, hsets⟩ := mapM_isOk hdirect
  obtain ⟨pairs, hpairs⟩ := mapM_isOk hpair
  refine ⟨pairs, ?_⟩
  unfold feedSets
  dsimp only
  rw [forIn_eq_mapM, hsets]
  exact hpairs

theorem feedSets_isOk (h : AnswersFeeds site accounts conditions)
    (hviewer : (∀ c ∈ conditions, c.operator ≠ .inMy) ∨ (accounts.find? viewerName).isSome) :
    ∃ sets, feedSets site accounts conditions = .ok sets :=
  feedSets_isOk_of fun c hc => feedSet_isOk h hc (hviewer.imp_left fun hmy => hmy c hc)

/-- A condition on the viewer's feeds fails before anything is waited for. -/
theorem feedSets_noViewer (h : AnswersFeeds site accounts conditions) (hc : c ∈ conditions)
    (hmy : c.operator = .inMy) (hviewer : accounts.find? viewerName = none) :
    feedSets site accounts conditions = .error .noViewer := by
  -- Without a viewer the condition needs no question, so it is among those that are awaited first.
  have hdirect : c ∈ conditions.filter (isDirect accounts) := by
    refine List.mem_filter.2 ⟨hc, ?_⟩
    unfold isDirect
    rw [hmy, hviewer]
    rfl
  have hsteps : (conditions.filter (isDirect accounts)).mapM (feedSet site accounts) =
      .error .noViewer := by
    refine mapM_eq_error (fun d hd => ?_) ⟨c, hdirect, feedSet_noViewer hmy hviewer⟩
    by_cases hd' : d.operator = .inMy
    · exact Or.inr (feedSet_noViewer hd' hviewer)
    · exact Or.inl (feedSet_isOk h (List.mem_of_mem_filter hd) (Or.inl hd'))
  unfold feedSets
  dsimp only
  rw [forIn_eq_mapM, hsteps]
  rfl

theorem find?_viewerName {viewer : Option Account} {names : List String} :
    (accountsOf site viewer names).find? viewerName = viewer := by
  simp [accountsOf, Accounts.find?]

/-! ### Intervals -/

/-- Conditions on intervals have bounds that can be read. -/
def IntervalsFit (tokens : List Token) : Prop :=
  ∀ o : Operator, o.takesInterval = true → ∀ c ∈ conditionsOf o tokens, o.ArgsFit c.args

theorem intervalsFit_of_wellFormed (h : ∀ t ∈ tokens, t.WellFormed) : IntervalsFit tokens := by
  intro o _ c hc
  obtain ⟨hmem, rfl⟩ := mem_conditionsOf.1 hc
  cases h _ hmem with
  | condition _ hargs => exact hargs

theorem intervalsFit_named (h : IntervalsFit tokens) (hnamed : List.Forall₂ NamedAs tokens named) :
    IntervalsFit named := by
  intro o ho c hc
  rw [conditionsOf_named (takesAccounts_of_takesInterval ho) hnamed] at hc
  exact h o ho c hc

theorem dayRestriction_isOk {column : String} (h : AreBounds IsDayText c.args) :
    ∃ f, dayRestriction column c = .ok f := by
  obtain ⟨lower, upper, hargs, -⟩ := h
  unfold dayRestriction bounds
  rw [hargs]
  exact ⟨_, rfl⟩

theorem countBound_isOk {bound : String} (h : bound = "" ∨ IsCountText bound) :
    ∃ n, countBound bound = .ok n := by
  unfold countBound
  split
  · exact ⟨none, rfl⟩
  · rename_i hne
    obtain ⟨n, -, hlt, rfl⟩ := h.resolve_left hne
    rw [← ofList_intDigits, String.toList_ofList, Numeral.readInt_intDigits hlt]
    exact ⟨some n, rfl⟩

theorem countRestriction_isOk {column : String} (h : AreBounds IsCountText c.args) :
    ∃ f, countRestriction column c = .ok f := by
  obtain ⟨lower, upper, hargs, -, hlower, hupper⟩ := h
  obtain ⟨m, hm⟩ := countBound_isOk hlower
  obtain ⟨n, hn⟩ := countBound_isOk hupper
  unfold countRestriction bounds
  rw [hargs]
  exact ⟨_, bind_eq_ok.2 ⟨(lower, upper), rfl, bind_eq_ok.2 ⟨m, hm, bind_eq_ok.2 ⟨n, hn, rfl⟩⟩⟩⟩

theorem contentDates_isOk (column : String) (scope : Scope) (h : IntervalsFit tokens) :
    ∃ f, contentDates tokens column scope = .ok f := by
  have hsteps : ∀ c ∈ conditionsOf .contentDate (inScope scope tokens),
      ∃ f, dayRestriction column c = .ok f := by
    intro c hc
    obtain ⟨hc, ho⟩ := mem_conditionsOf.1 hc
    exact dayRestriction_isOk (h .contentDate rfl c (mem_conditionsOf.2 ⟨mem_of_inScope hc, ho⟩))
  obtain ⟨fs, hfs⟩ := mapM_isOk hsteps
  exact ⟨_, bind_eq_ok.2 ⟨fs, hfs, rfl⟩⟩

theorem postDates_isOk (column : String) (h : IntervalsFit tokens) :
    ∃ f, postDates tokens column = .ok f := by
  have hsteps : ∀ c ∈ conditionsOf .postDate tokens, ∃ f, dayRestriction column c = .ok f :=
    fun c hc => dayRestriction_isOk (h .postDate rfl c hc)
  obtain ⟨fs, hfs⟩ := mapM_isOk hsteps
  exact ⟨_, bind_eq_ok.2 ⟨fs, hfs, rfl⟩⟩

theorem counters_isOk {o : Operator} (column : String)
    (h : ∀ c ∈ conditionsOf o tokens, AreBounds IsCountText c.args) :
    ∃ f, counters tokens o column = .ok f := by
  have hsteps : ∀ c ∈ conditionsOf o tokens, ∃ f, countRestriction column c = .ok f :=
    fun c hc => countRestriction_isOk (h c hc)
  obtain ⟨fs, hfs⟩ := mapM_isOk hsteps
  exact ⟨_, bind_eq_ok.2 ⟨fs, hfs, rfl⟩⟩

theorem clauses_isOk {feeds : List (Condition × OpenList Int)} (h : IntervalsFit tokens) :
    ∃ built, clauses tokens accounts feeds = .ok built := by
  obtain ⟨_, h₁⟩ := contentDates_isOk "p.created_at" .all h
  obtain ⟨_, h₂⟩ := contentDates_isOk "p.created_at" .posts h
  obtain ⟨_, h₃⟩ := contentDates_isOk "c.created_at" .all h
  obtain ⟨_, h₄⟩ := contentDates_isOk "c.created_at" .comments h
  obtain ⟨_, h₅⟩ := postDates_isOk "p.created_at" h
  obtain ⟨_, h₆⟩ := counters_isOk "pc.comments_count" (h .commentCount rfl)
  obtain ⟨_, h₇⟩ := counters_isOk "pc.likes_count" (h .likeCount rfl)
  obtain ⟨_, h₈⟩ := counters_isOk "cc.likes_count" (h .commentLikeCount rfl)
  exact ⟨_, bind_eq_ok.2 ⟨_, mapError_eq_ok.2 h₁, bind_eq_ok.2 ⟨_, mapError_eq_ok.2 h₂,
    bind_eq_ok.2 ⟨_, mapError_eq_ok.2 h₃, bind_eq_ok.2 ⟨_, mapError_eq_ok.2 h₄,
    bind_eq_ok.2 ⟨_, mapError_eq_ok.2 h₅, bind_eq_ok.2 ⟨_, mapError_eq_ok.2 h₆,
    bind_eq_ok.2 ⟨_, mapError_eq_ok.2 h₇, bind_eq_ok.2 ⟨_, mapError_eq_ok.2 h₈, rfl⟩⟩⟩⟩⟩⟩⟩⟩⟩

/-! ### Checks -/

theorem any_inMy : tokens.any (·.isCondition .inMy) = true ↔ AsksOwnFeeds tokens := by
  rw [List.any_eq_true]
  constructor
  · rintro ⟨t, ht, hmy⟩
    cases t with
    | condition c => exact ⟨c, ht, eq_of_beq hmy⟩
    | _ => cases hmy
  · rintro ⟨c, hc, hmy⟩
    exact ⟨_, hc, beq_iff_eq.2 hmy⟩

theorem check_tooComplex (h : options.maxComplexity < complexity tokens) :
    check options tokens = .error (.tooComplex (complexity tokens) options.maxComplexity) :=
  if_pos h

theorem check_ownFeeds (hle : complexity tokens ≤ options.maxComplexity)
    (hviewer : options.viewer = none) (hown : AsksOwnFeeds tokens) :
    check options tokens = .error .signInForFeeds := by
  unfold check
  rw [if_neg (not_lt.2 hle), if_pos]
  rw [hviewer, any_inMy.2 hown]
  rfl

theorem check_isOk (hle : complexity tokens ≤ options.maxComplexity)
    (hown : options.viewer.isSome ∨ ¬ AsksOwnFeeds tokens) (hsort : options.sort = key.name) :
    check options tokens = .ok key := by
  have hkey : SortKey.ofName? key.name = some key := by cases key <;> decide
  have hviewer : ¬ (options.viewer.isNone && tokens.any (·.isCondition .inMy)) = true := by
    rw [Bool.and_eq_true, any_inMy]
    rintro ⟨hnone, hasks⟩
    rcases hown with hsome | hown
    · rw [Option.isNone_iff_eq_none.1 hnone] at hsome
      cases hsome
    · exact hown hasks
  unfold check
  rw [if_neg (not_lt.2 hle), if_neg hviewer, hsort, hkey]

/-! ### Compiling -/

/-- What fails a check costs no lookup. -/
theorem compile_unchecked {e : Error} (h : check options tokens = .error e) :
    compile site options tokens = ⟨[], [], .error e⟩ := by
  unfold compile
  rw [h]

/-- What names a viewer who is not there costs the lookup of the viewer. -/
theorem compile_unnamed (hcheck : check options tokens = .ok key)
    (hviewer : options.viewer.bind site.accountById? = none) (hnames : NamesViewer tokens) :
    compile site options tokens =
      ⟨(options.viewer.map Lookup.accountById).toList, [], .error .signInForName⟩ := by
  unfold compile
  rw [hcheck]
  dsimp only
  rw [hviewer, nameViewerIn_none hnames]

/-- A query whose steps succeed is compiled. -/
theorem exists_compiled {sets : List (Condition × OpenList Int)} {built : Clauses}
    (hcheck : check options tokens = .ok key)
    (hname : nameViewerIn (options.viewer.bind site.accountById?) tokens = .ok named)
    (hsets : feedSets site (accountsOf site (options.viewer.bind site.accountById?)
      (accountNames named)) (feedConditions named) = .ok sets)
    (hbuilt : clauses named (accountsOf site (options.viewer.bind site.accountById?)
      (accountNames named)) sets = .ok built) :
    ∃ compiled, (compile site options tokens).result = .ok compiled := by
  unfold compile
  rw [hcheck]
  dsimp only
  rw [hname]
  exact ⟨_, bind_eq_ok.2 ⟨sets, mapError_eq_ok.2 hsets, bind_eq_ok.2 ⟨built, hbuilt, rfl⟩⟩⟩

/-- Past these checks only the viewer's own feeds may be missing. -/
theorem compile_named (hfit : IntervalsFit tokens)
    (hcheck : check options tokens = .ok key)
    (hname : nameViewerIn (options.viewer.bind site.accountById?) tokens = .ok named)
    (hanswers : ∀ q ∈ (compile site options tokens).feedLookups, site.Answers q) :
    ((options.viewer.bind site.accountById?).isSome ∨ ¬ AsksOwnFeeds tokens →
      ∃ compiled, (compile site options tokens).result = .ok compiled) ∧
    (options.viewer.bind site.accountById? = none → AsksOwnFeeds tokens →
      (compile site options tokens).result = .error .signInForFeeds) := by
  have hnamed := nameViewerIn_ok hname
  have hfeeds : AnswersFeeds site (accountsOf site (options.viewer.bind site.accountById?)
      (accountNames named)) (feedConditions named) := by
    unfold compile at hanswers
    rw [hcheck] at hanswers
    dsimp only at hanswers
    rw [hname] at hanswers
    exact hanswers
  refine ⟨fun h => ?_, fun hviewer hown => ?_⟩
  · obtain ⟨sets, hsets⟩ := feedSets_isOk hfeeds <| by
      rw [find?_viewerName]
      exact h.symm.imp_left fun hown c hc hmy => hown (asksOwnFeeds_named hnamed |>.1 ⟨c, hc, hmy⟩)
    obtain ⟨built, hbuilt⟩ := clauses_isOk (intervalsFit_named hfit hnamed)
    exact exists_compiled hcheck hname hsets hbuilt
  · obtain ⟨c, hc, hmy⟩ := (asksOwnFeeds_named hnamed).2 hown
    unfold compile
    rw [hcheck]
    dsimp only
    rw [hname]
    dsimp only
    rw [feedSets_noViewer hfeeds hc hmy (find?_viewerName.trans hviewer)]
    rfl

theorem compile_isOk (hfit : IntervalsFit tokens) (hsort : options.sort = key.name)
    (hle : complexity tokens ≤ options.maxComplexity)
    (hanswers : ∀ q ∈ (compile site options tokens).feedLookups, site.Answers q)
    (h : (options.viewer.bind site.accountById?).isSome ∨ ¬ ForViewer tokens) :
    ∃ compiled, (compile site options tokens).result = .ok compiled := by
  have hcheck : check options tokens = .ok key := by
    refine check_isOk hle (h.imp (fun h => ?_) fun h hown => h (Or.inl hown)) hsort
    obtain ⟨account, haccount⟩ := Option.isSome_iff_exists.1 h
    obtain ⟨id, hid, -⟩ := Option.bind_eq_some_iff.1 haccount
    exact Option.isSome_iff_exists.2 ⟨id, hid⟩
  obtain ⟨named, hname⟩ := nameViewerIn_isOk _ (h.imp_right fun h hnames => h (Or.inr hnames))
  exact (compile_named hfit hcheck hname hanswers).1 (h.imp_right fun h hown => h (Or.inl hown))

/-- Without a viewer, what means nothing without one is refused at no cost. -/
theorem compile_anonymous (hsort : options.sort = key.name)
    (hle : complexity tokens ≤ options.maxComplexity) (hviewer : options.viewer = none)
    (hfor : ForViewer tokens) :
    (compile site options tokens).NeedsViewer ∧ (compile site options tokens).AsksNothing := by
  by_cases hown : AsksOwnFeeds tokens
  · rw [compile_unchecked (check_ownFeeds hle hviewer hown)]
    exact ⟨Or.inl rfl, rfl, rfl⟩
  · have hcheck := check_isOk hle (Or.inr hown) hsort
    rw [compile_unnamed hcheck (by rw [hviewer]; rfl) (hfor.resolve_left hown), hviewer]
    exact ⟨Or.inr rfl, rfl, rfl⟩

/-- A viewer of no account is refused what means nothing without one. -/
theorem compile_stranger (hfit : IntervalsFit tokens) (hcheck : check options tokens = .ok key)
    (hanswers : ∀ q ∈ (compile site options tokens).feedLookups, site.Answers q)
    (hviewer : options.viewer.bind site.accountById? = none) (hfor : ForViewer tokens) :
    (compile site options tokens).NeedsViewer := by
  by_cases hnames : NamesViewer tokens
  · rw [compile_unnamed hcheck hviewer hnames]
    exact Or.inr rfl
  · obtain ⟨named, hname⟩ :=
      nameViewerIn_isOk (options.viewer.bind site.accountById?) (Or.inr hnames)
    have hown := hfor.resolve_right hnames
    exact Or.inl ((compile_named hfit hcheck hname hanswers).2 hviewer hown)

/-- A parsed query is too complex; or it is for a viewer who is not there, and the site has been
asked for nothing, or for the account of the viewer that the query names; or it is compiled. -/
theorem compile_outcome {query : String} {minStem : Datum}
    (hparse : parseWith query minStem = .ok tokens) (hsort : options.sort = key.name)
    (hanswers : ∀ q ∈ (compile site options tokens).feedLookups, site.Answers q) :
    (options.maxComplexity < complexity tokens →
      compile site options tokens =
        ⟨[], [], .error (.tooComplex (complexity tokens) options.maxComplexity)⟩) ∧
    (complexity tokens ≤ options.maxComplexity →
      (options.viewer = none → ForViewer tokens →
        (compile site options tokens).NeedsViewer ∧ (compile site options tokens).AsksNothing) ∧
      (∀ id, options.viewer = some id → site.accountById? id = none →
        ((compile site options tokens).NeedsViewer ↔ ForViewer tokens) ∧
        (NamesViewer tokens → (compile site options tokens).accountLookups = [.accountById id] ∧
          (compile site options tokens).feedLookups = [])) ∧
      ((options.viewer.bind site.accountById?).isSome ∨ ¬ ForViewer tokens →
        ∃ compiled, (compile site options tokens).result = .ok compiled)) := by
  have hfit : IntervalsFit tokens := by
    obtain ⟨n, h⟩ := exists_parse_of_parseWith hparse
    exact intervalsFit_of_wellFormed (wellFormed_of_parse h)
  refine ⟨fun h => compile_unchecked (check_tooComplex h), fun hle =>
    ⟨compile_anonymous hsort hle, fun id hid haccount => ?_, compile_isOk hfit hsort hle hanswers⟩⟩
  have hviewer : options.viewer.bind site.accountById? = none := by
    rw [hid]
    exact haccount
  have hcheck : check options tokens = .ok key :=
    check_isOk hle (Or.inl (by rw [hid]; rfl)) hsort
  refine ⟨⟨fun hneeds => ?_, compile_stranger hfit hcheck hanswers hviewer⟩, fun hnames => ?_⟩
  · by_contra hfor
    obtain ⟨compiled, hresult⟩ := compile_isOk hfit hsort hle hanswers (Or.inr hfor)
    rcases hneeds with h | h <;> rw [hresult] at h <;> cases h
  · rw [compile_unnamed hcheck hviewer hnames, hid]
    exact ⟨rfl, rfl⟩

/-- The viewer's own saved posts among those the viewer wrote. -/
def ownSaves : List TypedCondition :=
  [⟨.inMy, "saves", ["saves"]⟩, ⟨.postBy, "me", ["me"]⟩]

/-- The first account of the small site is the viewer. -/
def asFirst : Options :=
  { Options.default with viewer := some (Site.smallId 1) }

theorem asFirst_viewer : asFirst.viewer.bind Site.small.accountById? =
    some ⟨Site.smallId 1, 1, "alice", .user, true⟩ := by
  decide +kernel

theorem parse_ownSaves :
    parseWith "in-my:saves from:me" (.number 2) = .ok (ownSaves.map TypedCondition.token) := by
  have htext : "in-my:saves from:me" = Text.joinWith " " (ownSaves.map TypedCondition.text) := by
    decide +kernel
  rw [htext, parseWith_number, TypedCondition.parse_texts (by decide +kernel) (by decide +kernel)]
  rfl

theorem small_answers_saves :
    Site.small.Answers (.feedNumbers [Site.smallId 1] [.saves]) := by
  refine ⟨nofun, [15], ?_⟩
  decide +kernel

theorem compile_ownSaves :
    (compile Site.small asFirst (ownSaves.map TypedCondition.token)).feedLookups =
        [.feedNumbers [Site.smallId 1] [.saves]] ∧
      Site.small.Answers (.feedNumbers [Site.smallId 1] [.saves]) ∧
      ∃ compiled, (compile Site.small asFirst (ownSaves.map TypedCondition.token)).result =
        .ok compiled := by
  have hlookups : (compile Site.small asFirst (ownSaves.map TypedCondition.token)).feedLookups =
      [.feedNumbers [Site.smallId 1] [.saves]] := by
    decide +kernel
  have hsort : asFirst.sort = SortKey.bumped.name := rfl
  have hle : complexity (ownSaves.map TypedCondition.token) ≤ asFirst.maxComplexity := by decide
  have hviewer : (asFirst.viewer.bind Site.small.accountById?).isSome := by
    rw [asFirst_viewer]
    rfl
  have houtcome := compile_outcome parse_ownSaves hsort <| by
    rw [hlookups, List.forall_mem_singleton]
    exact small_answers_saves
  exact ⟨hlookups, small_answers_saves, (houtcome.2 hle).2.2 (Or.inl hviewer)⟩

end Search

end PostSearch
