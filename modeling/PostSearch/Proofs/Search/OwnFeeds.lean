import PostSearch.Proofs.Clause.FeedNumbers
import PostSearch.Proofs.Search.Filters
import PostSearch.Proofs.Search.Refusals

/-! # The viewer's own feeds

A condition on the viewer's own feeds is answered twice: its arguments are looked up as names of
feeds, and where one of them contains the word `discussion`, posts by the viewer are meant as well.
The two answers agree for the name `discussions` and its singular, but the word occurs in names that
mean nothing.

Main statement: `compile_ownFeeds` says which posts pass a query for own feeds, and that these are
the posts in feeds that are known by name, or by the viewer if discussions are, exactly where no
other argument contains the word. -/

namespace PostSearch

namespace Clause

open Query Sql

variable {site : Site} {me : Account} {n : Int}

/-! ### Numbers of feeds -/

/-- The feed of the number is among those that a viewer has by the name. -/
def OwnFeeds.Has (site : Site) (me : Account) (n : Int) : OwnFeeds → Prop
  | .saves => ⟨n, me.id, .saves⟩ ∈ site.feeds
  | .directs => ⟨n, me.id, .directs⟩ ∈ site.feeds
  | .discussions => ⟨n, me.id, .comments⟩ ∈ site.feeds ∨ ⟨n, me.id, .likes⟩ ∈ site.feeds
  | .friends => ⟨me.id, n⟩ ∈ site.subscriptions ∧ ∃ f ∈ site.feeds, f.number = n

theorem canonicalId_of_found {id : String} (h : site.accountById? id = some me) :
    Site.canonicalId me.id = .ok me.id := by
  unfold Site.accountById? at h
  split at h
  · rename_i hcanonical
    have hfound := List.find?_some (p := fun a : Account => a.id == id) h
    obtain rfl : me.id = id := beq_iff_eq.1 hfound
    exact Site.canonicalId_of_isCanonical hcanonical
  · cases h

theorem holds_owned {names : List FeedName} (hid : Site.canonicalId me.id = .ok me.id) :
    (FeedSource.owned [me] names).Holds site n ↔ ∃ name ∈ names, ⟨n, me.id, name⟩ ∈ site.feeds := by
  unfold FeedSource.Holds
  simp only [List.mem_singleton, exists_eq_left, Account.owns_iff hid]
  constructor
  · rintro ⟨f, hf, howner, hname, rfl⟩
    exact ⟨f.name, hname, howner ▸ hf⟩
  · rintro ⟨name, hname, hf⟩
    exact ⟨_, hf, rfl, hname, rfl⟩

theorem reads_iff (hid : Site.canonicalId me.id = .ok me.id) :
    me.Reads site n ↔ ⟨me.id, n⟩ ∈ site.subscriptions := by
  unfold Account.Reads
  simp only [hid, Except.ok.injEq]
  constructor
  · rintro ⟨s, hs, hreader, rfl⟩
    exact hreader ▸ hs
  · exact fun hs => ⟨_, hs, rfl, rfl⟩

/-- Where own feeds come from are the feeds by the name. -/
theorem OwnFeeds.holds_source {own : OwnFeeds} (hid : Site.canonicalId me.id = .ok me.id) :
    (own.source me).Holds site n ↔ own.Has site me n := by
  cases own with
  | saves | directs =>
      refine (holds_owned hid).trans ?_
      simp only [List.mem_singleton, exists_eq_left]
      rfl
  | discussions =>
      refine (holds_owned hid).trans ?_
      simp only [List.mem_cons, List.not_mem_nil, or_false, exists_eq_or_imp, exists_eq_left]
      rfl
  | friends => exact and_congr_left fun _ => reads_iff hid

theorem mem_feedSet {accounts : Accounts} {args : List String} {excluded : Bool}
    {feeds : OpenList Int} (hviewer : accounts.find? viewerName = some me)
    (hid : Site.canonicalId me.id = .ok me.id)
    (h : feedSet site accounts ⟨excluded, .inMy, args⟩ = .ok feeds) :
    feeds.inclusive = !excluded ∧
      ∀ n, n ∈ feeds.items ↔ ∃ own ∈ args.filterMap OwnFeeds.ofArg?, own.Has site me n := by
  obtain ⟨found, hfound, hinclusive, hitems⟩ := feedSet_ok h
  refine ⟨hinclusive, fun n => (hitems n).trans ?_⟩
  have hsources : found = (distinct (args.filterMap OwnFeeds.ofArg?)).map (·.source me) := by
    unfold sources at hfound
    dsimp only at hfound
    rw [hviewer] at hfound
    exact (Except.ok.inj hfound).symm
  simp only [hsources, List.mem_map, mem_distinct, exists_exists_and_eq_and,
    OwnFeeds.holds_source hid]

theorem feedSets_ok {accounts : Accounts} {conditions : List Condition}
    {sets : List (Condition × OpenList Int)}
    (h : feedSets site accounts conditions = .ok sets) :
    List.Forall₂ (fun c p => p.1 = c ∧ feedSet site accounts c = .ok p.2) conditions sets := by
  obtain ⟨-, -, hsets⟩ := bind_eq_ok.1 h
  refine (mapM_eq_ok hsets).imp fun c p hp => ?_
  obtain ⟨feeds, hfeeds, rfl⟩ := map_eq_ok.1 hp
  exact ⟨rfl, hfeeds⟩

/-! ### The word and the name -/

def SaysDiscussion (args : List String) : Prop :=
  ∃ arg ∈ args, Text.contains "discussion".toList arg.toList = true

theorem namesDiscussions_iff {excluded : Bool} {args : List String} :
    namesDiscussions ⟨excluded, .inMy, args⟩ = true ↔ SaysDiscussion args :=
  List.any_eq_true

theorem OwnFeeds.eq_discussions {name : String} (h : ofPlural? name = some .discussions) :
    name = "discussions" := by
  unfold ofPlural? at h
  split at h
  · cases h
  · split at h
    · cases h
    · split at h
      · assumption
      · split at h <;> cases h

/-- Discussions are named with the word in the name. -/
theorem saysDiscussion_of_known {args : List String}
    (h : OwnFeeds.discussions ∈ args.filterMap OwnFeeds.ofArg?) : SaysDiscussion args := by
  obtain ⟨arg, harg, hown⟩ := List.mem_filterMap.1 h
  refine ⟨arg, harg, ?_⟩
  have hname := OwnFeeds.eq_discussions hown
  split at hname
  · rw [hname]
    decide +kernel
  · have hsingular : arg.toList = "discussion".toList := by
      have hletters : arg.toList ++ ['s'] = "discussion".toList ++ ['s'] :=
        (String.toList_append (t := "s")).symm.trans (congrArg String.toList hname)
      exact List.append_cancel_right hletters
    rw [hsingular]
    decide +kernel

end Clause

namespace Search

open Query Sql Clause

variable {site : Site} {options : Options} {compiled : Compiled} {me : Account}
  {args : List String} {excluded : Bool}

/-! ### Posts that pass -/

/-- The row of a post in feeds of these numbers, by the author of this id. -/
def postRow (feeds : List Int) (author : String) : Row where
  value column :=
    if column = "p.feed_ids" then some (.numbers feeds)
    else if column = "p.user_id" then some (.text author)
    else none
  judge _ := none

/-- A post in these feeds, by this author, passes what is asked of feeds and of authors of posts. -/
def Clauses.Passes (c : Clauses) (feeds : List Int) (author : String) : Prop :=
  c.feeds.KeepsRow (postRow feeds author) ∧
    (authorRestriction "p.user_id" c.postAuthors).KeepsRow (postRow feeds author)

/-- A post is in one of the viewer's feeds that are known by an argument. -/
def IsInKnown (site : Site) (me : Account) (args : List String) (feeds : List Int) : Prop :=
  ∃ own ∈ args.filterMap OwnFeeds.ofArg?, ∃ n ∈ feeds, own.Has site me n

theorem keepsRow_feedRestriction {c : Condition} {set : OpenList Int} {id : String}
    (hinclusive : set.inclusive = !c.excluded) (feeds : List Int) (author : String) :
    (feedRestriction (some id) c set).KeepsRow (postRow feeds author) ↔
      ((∃ n ∈ feeds, n ∈ set.items) ↔ c.excluded = false) ∨
        namesDiscussions c = true ∧ c.excluded = false ∧ author = id := by
  have hvalue : (postRow feeds author).value "p.feed_ids" = some (.numbers feeds) := rfl
  have hin : (Restriction.overlap "p.feed_ids" set.items set.inclusive).truth
      [(postRow feeds author).truth] (postRow feeds author).truth = some true ↔
      ((∃ n ∈ feeds, n ∈ set.items) ↔ c.excluded = false) := by
    rw [Restriction.truth_overlap hvalue, Truth.signed_eq_true, hinclusive, Bool.not_eq_true',
      List.any_eq_true]
    simp [Datum.items, Datum.numbers]
  unfold feedRestriction Restriction.KeepsRow
  dsimp only
  split
  · rename_i hnames
    obtain ⟨hword, hasked⟩ := Bool.and_eq_true_iff.1 hnames
    rw [Bool.not_eq_true'] at hasked
    have hauthor : (postRow feeds author).truth
        (.compare "p.user_id" .equal (.text id) (some "uuid")) = some true ↔ author = id := by
      simp [Row.truth, postRow]
    rw [Restriction.truth, Restriction.truths_eq, Truth.disjunction, Truth.joined_eq_some_iff,
      List.map_cons, List.map_singleton, List.mem_pair, and_iff_right hword, and_iff_right hasked]
    exact or_congr (eq_comm.trans hin) (eq_comm.trans hauthor)
  · rename_i hnames
    refine hin.trans (or_iff_left fun hself => hnames ?_).symm
    rw [hself.1, hself.2.1]
    rfl

theorem keepsRow_restrictAuthors {c : Condition} {id : String} (feeds : List Int) (author : String) :
    (authorRestriction "p.user_id" (restrictAuthors (some id) .everything [c])).KeepsRow
        (postRow feeds author) ↔
      ¬(namesDiscussions c = true ∧ c.excluded = true ∧ author = id) := by
  unfold restrictAuthors Restriction.KeepsRow
  rw [List.foldl_cons, List.foldl_nil, ← and_assoc, ← Bool.and_eq_true_iff]
  split
  · rename_i hnames
    have hothers : OpenList.everything.intersection (feedAuthors (some id) c) =
        (OpenList.ofList [id]).inverse := by
      unfold feedAuthors
      dsimp only
      rw [if_pos hnames]
      rfl
    have hamong : (postRow feeds author).isAmong "p.user_id" [.text id] =
        some (decide (author = id)) := by
      simp [Row.isAmong, postRow]
    rw [hothers, and_iff_right hnames, authorRestriction, Restriction.truth_member]
    change Truth.negation ((postRow feeds author).isAmong "p.user_id" [.text id]) = some true ↔ _
    rw [hamong, Truth.negation_eq_true, Option.some.injEq, decide_eq_false_iff_not]
  · rename_i hnames
    exact iff_of_true rfl fun hself => hnames hself.1

theorem clauses_ownFeeds (hviewer : options.viewer.bind site.accountById? = some me)
    (h : (compile site options [.condition ⟨excluded, .inMy, args⟩]).result = .ok compiled) :
    ∃ a : Assembly site options [.condition ⟨excluded, .inMy, args⟩] compiled,
    ∃ set : OpenList Int, set.inclusive = (!excluded) ∧
      (∀ n, n ∈ set.items ↔ ∃ own ∈ args.filterMap OwnFeeds.ofArg?, own.Has site me n) ∧
      a.clauses.feeds = .all [feedRestriction (some me.id) ⟨excluded, .inMy, args⟩ set] ∧
      a.clauses.postAuthors = restrictAuthors (some me.id) .everything
        [⟨excluded, .inMy, args⟩] := by
  obtain ⟨a, hfeeds⟩ := compile_ok_feeds h
  have hnamed : a.named = [.condition ⟨excluded, .inMy, args⟩] := (Except.ok.inj a.naming).symm
  have hfound : (accountsOf site (options.viewer.bind site.accountById?)
      (accountNames a.named)).find? viewerName = some me := find?_viewerName.trans hviewer
  have hid : Site.canonicalId me.id = .ok me.id := by
    obtain ⟨id, -, hme⟩ := Option.bind_eq_some_iff.1 hviewer
    exact canonicalId_of_found hme
  obtain ⟨set, hset, hpair⟩ : ∃ set, feedSet site (accountsOf site
      (options.viewer.bind site.accountById?) (accountNames a.named)) ⟨excluded, .inMy, args⟩ =
        .ok set ∧ a.feeds = [(⟨excluded, .inMy, args⟩, set)] := by
    have hconditions : feedConditions a.named = [⟨excluded, .inMy, args⟩] := by
      rw [hnamed]
      rfl
    have hsets := feedSets_ok hfeeds
    rw [hconditions] at hsets
    obtain ⟨⟨_, set⟩, _, ⟨rfl, hset⟩, hnil, e⟩ := List.forall₂_cons_left_iff.1 hsets
    rw [List.forall₂_nil_left_iff.1 hnil] at e
    exact ⟨set, hset, e⟩
  have hbuilt := clauses_ok a.building
  obtain ⟨hinclusive, hitems⟩ := mem_feedSet hfound hid hset
  refine ⟨a, set, hinclusive, hitems, ?_, ?_⟩
  · rw [hbuilt.feeds, hfound, hpair]
    rfl
  · rw [hbuilt.postAuthors, hfound, hpair, hnamed]
    rfl

/-- Which posts pass a query for own feeds. -/
theorem passes_ownFeeds (hviewer : options.viewer.bind site.accountById? = some me)
    (h : (compile site options [.condition ⟨excluded, .inMy, args⟩]).result = .ok compiled) :
    ∃ a : Assembly site options [.condition ⟨excluded, .inMy, args⟩] compiled,
      ∀ feeds author, a.clauses.Passes feeds author ↔
        ((IsInKnown site me args feeds ∨ SaysDiscussion args ∧ author = me.id) ↔
          excluded = false) := by
  obtain ⟨a, set, hinclusive, hitems, hfeeds, hauthors⟩ := clauses_ownFeeds hviewer h
  refine ⟨a, fun feeds author => ?_⟩
  have hknown : (∃ n ∈ feeds, n ∈ set.items) ↔ IsInKnown site me args feeds := by
    simp only [hitems, IsInKnown]
    constructor
    · rintro ⟨n, hn, own, hown, hhas⟩
      exact ⟨own, hown, n, hn, hhas⟩
    · rintro ⟨own, hown, n, hn, hhas⟩
      exact ⟨n, hn, own, hown, hhas⟩
  have hall : a.clauses.feeds.KeepsRow (postRow feeds author) ↔
      (feedRestriction (some me.id) ⟨excluded, .inMy, args⟩ set).KeepsRow (postRow feeds author) := by
    rw [hfeeds]
    unfold Restriction.KeepsRow
    rw [Restriction.truth, Restriction.truths_eq, List.map_singleton, Truth.conjunction,
      Truth.joined_singleton]
  unfold Clauses.Passes
  rw [hall, keepsRow_feedRestriction hinclusive, hauthors, keepsRow_restrictAuthors, hknown,
    namesDiscussions_iff]
  cases excluded with
  | false => simp
  | true => simp [not_or]

/-- A query for own feeds, or for posts outside them, finds posts by the feeds that are known and by
authorship where an argument says `discussion`; its texts are read that way only. By authorship where
discussions are known it finds them exactly if the word stands in no other argument alone. -/
theorem compile_ownFeeds (hviewer : options.viewer.bind site.accountById? = some me)
    (h : (compile site options [.condition ⟨excluded, .inMy, args⟩]).result = .ok compiled) :
    ∃ a : Assembly site options [.condition ⟨excluded, .inMy, args⟩] compiled,
      (∀ feeds author,
        let row := postRow feeds author
        ReadsAs compiled.params [row] row a.parts.feeds.text
          (a.clauses.feeds.truth [row.truth] row.truth) ∧
        ReadsAs compiled.params [row] row a.parts.postAuthors.text
          ((authorRestriction "p.user_id" a.clauses.postAuthors).truth [row.truth] row.truth)) ∧
      (∀ feeds author, a.clauses.Passes feeds author ↔
        ((IsInKnown site me args feeds ∨ SaysDiscussion args ∧ author = me.id) ↔
          excluded = false)) ∧
      ((∀ feeds author, a.clauses.Passes feeds author ↔
        ((IsInKnown site me args feeds ∨
          OwnFeeds.discussions ∈ args.filterMap OwnFeeds.ofArg? ∧ author = me.id) ↔
          excluded = false)) ↔
        (SaysDiscussion args → OwnFeeds.discussions ∈ args.filterMap OwnFeeds.ofArg?)) := by
  obtain ⟨a, hpasses⟩ := passes_ownFeeds hviewer h
  refine ⟨a, fun feeds author => ?_, hpasses, fun hknown hspeaks => ?_,
    fun hspeaks feeds author => ?_⟩
  · obtain ⟨hfeeds, -, -, hauthors, -⟩ := a.reads_clauses
      (List.cons_ne_nil (postRow feeds author) []) (postRow feeds author)
    exact ⟨hfeeds, hauthors⟩
  · -- A post by the viewer that is in no feed passes, so it has to be meant by a known name.
    have hself := (hknown [] me.id).symm.trans (hpasses [] me.id)
    have hnone : ¬IsInKnown site me args [] := fun ⟨_, _, _, hn, _⟩ => List.not_mem_nil hn
    simp only [hnone, false_or, hspeaks, and_true, true_iff] at hself
    cases excluded with
    | false => exact (hself.2 rfl).2 rfl
    | true =>
        by_contra hnot
        exact absurd (hself.1 (iff_of_false hnot nofun)) nofun
  · rw [hpasses, (⟨hspeaks, saysDiscussion_of_known⟩ : SaysDiscussion args ↔ _)]

/-! ### Queries on the small site -/

theorem compile_single (hlookups : ∀ q ∈ (compile Site.small asFirst
      [.condition ⟨excluded, .inMy, args⟩]).feedLookups, Site.small.Answers q)
    (hle : complexity [.condition ⟨excluded, .inMy, args⟩] ≤ asFirst.maxComplexity) :
    ∃ compiled, (compile Site.small asFirst [.condition ⟨excluded, .inMy, args⟩]).result =
      .ok compiled := by
  have hsort : asFirst.sort = SortKey.bumped.name := rfl
  refine compile_isOk (fun o ho c hc => ?_) hsort hle hlookups (Or.inl ?_)
  · obtain ⟨hmem, rfl⟩ := mem_conditionsOf.1 hc
    obtain rfl := Token.condition.inj (List.mem_singleton.1 hmem)
    cases ho
  · rw [asFirst_viewer]
    rfl

theorem ownFeeds_without_saves : ∃ compiled,
    (compile Site.small asFirst [.condition ⟨true, .inMy, ["saves"]⟩]).result = .ok compiled ∧
    ∃ a : Assembly Site.small asFirst [.condition ⟨true, .inMy, ["saves"]⟩] compiled,
      a.clauses.Passes [21] (Site.smallId 2) ∧ ¬a.clauses.Passes [15, 21] (Site.smallId 2) := by
  have hlookups : (compile Site.small asFirst [.condition ⟨true, .inMy, ["saves"]⟩]).feedLookups =
      [.feedNumbers [Site.smallId 1] [.saves]] := by
    decide +kernel
  have hspeaks : ¬SaysDiscussion ["saves"] := by
    rintro ⟨arg, harg, hword⟩
    obtain rfl := List.mem_singleton.1 harg
    revert hword
    decide +kernel
  have hknown : ["saves"].filterMap OwnFeeds.ofArg? = [.saves] := by decide +kernel
  obtain ⟨compiled, h⟩ := compile_single (by
    rw [hlookups, List.forall_mem_singleton]
    exact small_answers_saves) (by decide)
  obtain ⟨a, -, hpasses, -⟩ := compile_ownFeeds asFirst_viewer h
  refine ⟨compiled, h, a, ?_, ?_⟩ <;> rw [hpasses] <;>
    simp only [hspeaks, false_and, or_false, IsInKnown, hknown, List.mem_singleton, exists_eq_left]
  · refine iff_of_false ?_ nofun
    unfold OwnFeeds.Has
    decide +kernel
  · intro hpass
    refine absurd (hpass.1 ⟨15, List.mem_cons_self, ?_⟩) nofun
    unfold OwnFeeds.Has
    decide +kernel

/-- A name that means nothing finds the viewer's posts if the word is in it. -/
theorem ownFeeds_of_unknown_name : ∃ compiled,
    (compile Site.small asFirst [.condition ⟨false, .inMy, ["discussionboard"]⟩]).result =
      .ok compiled ∧
    ["discussionboard"].filterMap OwnFeeds.ofArg? = [] ∧
    ∃ a : Assembly Site.small asFirst [.condition ⟨false, .inMy, ["discussionboard"]⟩] compiled,
      a.clauses.Passes [] (Site.smallId 1) := by
  have hlookups : (compile Site.small asFirst
      [.condition ⟨false, .inMy, ["discussionboard"]⟩]).feedLookups = [] := by
    decide +kernel
  obtain ⟨compiled, h⟩ := compile_single (by
    rw [hlookups]
    nofun) (by decide)
  obtain ⟨a, hpasses⟩ := passes_ownFeeds asFirst_viewer h
  refine ⟨compiled, h, by decide +kernel, a, (hpasses _ _).2 (iff_of_true (Or.inr ⟨?_, rfl⟩) rfl)⟩
  refine ⟨_, List.mem_cons_self, ?_⟩
  decide +kernel

end Search

end PostSearch
