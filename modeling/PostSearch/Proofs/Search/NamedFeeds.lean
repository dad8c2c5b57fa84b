import PostSearch.Proofs.Clause.FeedNumbers
import PostSearch.Proofs.Search.Resolving

/-! # Feeds of named accounts

Conditions that are on feeds of accounts name the accounts; which of their feeds are meant depends
on the condition, on what the account is for, and on whether it is gone. Names that are repeated or
nobody's make no difference, and where no account is left to ask for, nothing is asked.

Main statement: `feedSet_namedFeeds`. -/

namespace PostSearch

namespace Clause

open Query

variable {site : Site} {accounts : Accounts} {c : Condition} {o : Operator} {a : Account}

def namedFeedOperators : List Operator :=
  [.inFeed, .commentedBy, .likedBy, .sentTo]

/-- A condition that names the account means its feed of the name. Whoever is gone keeps comments
and directs only. -/
def MeansFeed (a : Account) (name : FeedName) : Operator → Prop
  | .inFeed => a.isActive = true ∧ name = .posts
  | .commentedBy => name = .comments
  | .likedBy => a.isActive = true ∧ name = .likes
  | .sentTo =>
    a.kind = .user ∧ name = .directs ∨ a.kind = .group ∧ a.isActive = true ∧ name = .posts
  | _ => False

/-! ### Sources -/

/-- Accounts that are found under the arguments of a condition. -/
def foundAccounts (accounts : Accounts) (c : Condition) : List Account :=
  (distinct c.args).filterMap accounts.find?

theorem mem_foundAccounts :
    a ∈ foundAccounts accounts c ↔ ∃ name ∈ c.args, accounts.find? name = some a := by
  simp only [foundAccounts, List.mem_filterMap, mem_distinct]

/-- Which accounts are asked for a feed, and for which. -/
def asked : Operator → List ((Account → Bool) × FeedName)
  | .inFeed => [(Account.isActive, .posts)]
  | .commentedBy => [(fun _ => true, .comments)]
  | .likedBy => [(Account.isActive, .likes)]
  | .sentTo => [(Account.isUser, .directs), (fun a => a.isGroup && a.isActive, .posts)]
  | _ => []

theorem meansFeed_iff {name : FeedName} :
    MeansFeed a name o ↔ ∃ q ∈ asked o, q.1 a = true ∧ name = q.2 := by
  cases o <;> simp [MeansFeed, asked, Account.isUser, Account.isGroup, and_assoc]

instance (name : FeedName) : Decidable (MeansFeed a name o) :=
  decidable_of_iff _ meansFeed_iff.symm

/-- A condition asks the accounts that are found for one feed each. -/
theorem sources_named (ho : c.operator ∈ namedFeedOperators) :
    sources accounts c = .ok ((asked c.operator).map fun q =>
      .owned ((foundAccounts accounts c).filter q.1) [q.2]) := by
  obtain ⟨excluded, o, args⟩ := c
  simp only [namedFeedOperators, List.mem_cons, List.not_mem_nil, or_false] at ho
  rcases ho with rfl | rfl | rfl | rfl
  · rfl
  · simp only [sources, asked, foundAccounts, List.map_cons, List.map_nil, List.filter_true]
  · rfl
  · simp only [sources, asked, foundAccounts, List.map_cons, List.map_nil, List.filter_filter]

theorem holds_owned_filter {owners : List Account} {p : Account → Bool} {name : FeedName}
    {n : Int} : (FeedSource.owned (owners.filter p) [name]).Holds site n ↔
      ∃ a ∈ owners, ∃ f ∈ site.feeds, a.Owns f ∧ (p a = true ∧ f.name = name) ∧ f.number = n := by
  simp only [FeedSource.Holds, List.mem_filter, List.mem_singleton]
  constructor
  · rintro ⟨a, ⟨ha, hp⟩, f, hf, howns, hname, hn⟩
    exact ⟨a, ha, f, hf, howns, ⟨hp, hname⟩, hn⟩
  · rintro ⟨a, ha, f, hf, howns, ⟨hp, hname⟩, hn⟩
    exact ⟨a, ⟨ha, hp⟩, f, hf, howns, hname, hn⟩

/-- The numbers of a condition are those of the feeds that it means. -/
theorem mem_feedSet_named {feeds : OpenList Int} (ho : c.operator ∈ namedFeedOperators)
    (h : feedSet site accounts c = .ok feeds) (n : Int) :
    n ∈ feeds.items ↔ ∃ a ∈ foundAccounts accounts c, ∃ f ∈ site.feeds,
      a.Owns f ∧ MeansFeed a f.name c.operator ∧ f.number = n := by
  obtain ⟨found, hfound, -, hitems⟩ := feedSet_ok h
  obtain rfl := Except.ok.inj ((sources_named ho).symm.trans hfound)
  rw [hitems]
  simp only [List.mem_map, exists_exists_and_eq_and, holds_owned_filter, meansFeed_iff]
  constructor
  · rintro ⟨q, hq, a, ha, f, hf, howns, hasked, hn⟩
    exact ⟨a, ha, f, hf, howns, ⟨q, hq, hasked⟩, hn⟩
  · rintro ⟨a, ha, f, hf, howns, ⟨q, hq, hasked⟩, hn⟩
    exact ⟨q, hq, a, ha, f, hf, howns, hasked, hn⟩

theorem lookup?_owned {owners : List Account} {names : List FeedName} {q : Lookup} :
    (FeedSource.owned owners names).lookup? = some q ↔
      owners ≠ [] ∧ .feedNumbers (distinct (owners.map Account.id)) names = q := by
  cases owners with
  | nil => exact iff_of_false nofun fun h => h.1 rfl
  | cons a owners => simp [FeedSource.lookup?]

theorem feedLookups_named {q : Lookup} (ho : c.operator ∈ namedFeedOperators)
    (hq : q ∈ feedLookups accounts [c]) :
    ∃ owners names, q = .feedNumbers owners names ∧ owners ≠ [] ∧ owners.Nodup ∧
      ∀ id ∈ owners, ∃ a ∈ foundAccounts accounts c, a.id = id := by
  unfold feedLookups at hq
  rw [List.flatMap_singleton, sources_named ho] at hq
  obtain ⟨source, hsource, hlookup⟩ := List.mem_filterMap.1 hq
  obtain ⟨⟨p, name⟩, -, rfl⟩ := List.mem_map.1 hsource
  obtain ⟨hne, rfl⟩ := lookup?_owned.1 hlookup
  obtain ⟨a, ha⟩ := List.exists_mem_of_ne_nil _ hne
  refine ⟨_, _, rfl, List.ne_nil_of_mem (mem_distinct.2 (List.mem_map_of_mem ha)),
    nodup_distinct _, fun id hid => ?_⟩
  obtain ⟨b, hb, rfl⟩ := List.mem_map.1 (mem_distinct.1 hid)
  exact ⟨b, (List.mem_filter.1 hb).1, rfl⟩

end Clause

namespace Search

open Query Clause

variable {site : Site} {options : Options} {tokens named : List Token} {c : Condition}

theorem mem_foundAccounts_resolved (husernames : (site.accounts.map Account.username).Nodup)
    (h : nameViewerIn (options.viewer.bind site.accountById?) tokens = .ok named)
    (hc : .condition c ∈ named) (ho : c.operator ∈ accountOperators) {a : Account} :
    a ∈ foundAccounts (accountsOf site (options.viewer.bind site.accountById?)
      (accountNames named)) c ↔ a ∈ site.accounts ∧ a.username ∈ c.args := by
  have hnames : ∀ name ∈ c.args, name ∈ accountNames named :=
    fun name hname => mem_accountNames.2 ⟨c, hc, ho, hname⟩
  rw [mem_foundAccounts]
  constructor
  · rintro ⟨name, hname, ha⟩
    obtain ⟨hmem, rfl⟩ := find?_spec h (hnames name hname) ha
    exact ⟨hmem, hname⟩
  · rintro ⟨ha, hname⟩
    exact ⟨_, hname, find?_username husernames h ha (hnames _ hname)⟩

/-- A condition on feeds of accounts allows, or excludes, the feeds that it means of the accounts
that it names, each once; it is answered if the site is able to answer. The site is asked for feeds
of somebody only, whom it is told once. -/
theorem feedSet_namedFeeds (husernames : (site.accounts.map Account.username).Nodup)
    (h : nameViewerIn (options.viewer.bind site.accountById?) tokens = .ok named)
    (hc : .condition c ∈ named) (ho : c.operator ∈ namedFeedOperators) :
    let accounts := accountsOf site (options.viewer.bind site.accountById?) (accountNames named)
    (AnswersFeeds site accounts [c] → ∃ feeds, feedSet site accounts c = .ok feeds) ∧
    (∀ feeds, feedSet site accounts c = .ok feeds →
      (feeds.inclusive = true ↔ c.excluded = false) ∧ feeds.items.Nodup ∧
      ∀ n, n ∈ feeds.items ↔ ∃ a ∈ site.accounts, a.username ∈ c.args ∧
        ∃ f ∈ site.feeds, a.Owns f ∧ MeansFeed a f.name c.operator ∧ f.number = n) ∧
    ∀ q ∈ feedLookups accounts [c], ∃ owners names, q = .feedNumbers owners names ∧
      owners ≠ [] ∧ owners.Nodup ∧
      ∀ id ∈ owners, ∃ a ∈ site.accounts, a.username ∈ c.args ∧ a.id = id := by
  intro accounts
  have haccounts : c.operator ∈ accountOperators := by
    have hsub : namedFeedOperators ⊆ accountOperators := by decide
    exact hsub ho
  have hfound : ∀ a, a ∈ foundAccounts accounts c ↔ a ∈ site.accounts ∧ a.username ∈ c.args :=
    fun a => mem_foundAccounts_resolved husernames h hc haccounts
  refine ⟨fun hanswers => ?_, fun feeds hfeeds => ⟨?_, feeds.nodup, fun n => ?_⟩, fun q hq => ?_⟩
  · have hother : c.operator ≠ .inMy := fun hmy => absurd (hmy ▸ ho) (by decide)
    exact feedSet_isOk hanswers List.mem_cons_self (Or.inl hother)
  · obtain ⟨-, -, hinclusive, -⟩ := feedSet_ok hfeeds
    rw [hinclusive, Bool.not_eq_true']
  · simp only [mem_feedSet_named ho hfeeds, hfound, and_assoc]
  · obtain ⟨owners, names, rfl, hne, hnodup, howners⟩ := feedLookups_named ho hq
    refine ⟨owners, names, rfl, hne, hnodup, fun id hid => ?_⟩
    obtain ⟨a, ha, rfl⟩ := howners id hid
    exact ⟨a, ((hfound a).1 ha).1, ((hfound a).1 ha).2, rfl⟩

/-- Posts that were sent neither to the viewer, nor to a group, nor to a group and a user who are
gone. -/
def sentElsewhere : Condition :=
  ⟨true, .sentTo, ["me", "cats", "oldgroup", "ghost", "nobody", "cats"]⟩

theorem feedSet_of_sentElsewhere :
    let named := [Token.condition (sentElsewhere.written "alice")]
    let accounts := accountsOf Site.small (asFirst.viewer.bind Site.small.accountById?)
      (accountNames named)
    (Site.small.accounts.map Account.username).Nodup ∧
    nameViewerIn (asFirst.viewer.bind Site.small.accountById?) [.condition sentElsewhere] =
      .ok named ∧
    ∃ feeds, feedSet Site.small accounts (sentElsewhere.written "alice") = .ok feeds ∧
      feeds.inclusive = false ∧ 44 ∈ feeds.items ∧ 51 ∉ feeds.items := by
  have husernames : (Site.small.accounts.map Account.username).Nodup := by decide
  have hnamed : nameViewerIn (asFirst.viewer.bind Site.small.accountById?)
      [.condition sentElsewhere] = .ok [.condition (sentElsewhere.written "alice")] :=
    nameViewerIn_asFirst _
  have hasked : feedLookups (accountsOf Site.small (asFirst.viewer.bind Site.small.accountById?)
      (accountNames [.condition (sentElsewhere.written "alice")]))
        [sentElsewhere.written "alice"] =
      [.feedNumbers [Site.smallId 1, Site.smallId 4] [.directs],
        .feedNumbers [Site.smallId 3] [.posts]] := by
    decide +kernel
  obtain ⟨hok, hfeeds, -⟩ := feedSet_namedFeeds husernames hnamed List.mem_cons_self (by decide)
  obtain ⟨feeds, hset⟩ := hok (by
    unfold AnswersFeeds
    rw [hasked, List.forall_mem_cons, List.forall_mem_singleton]
    exact ⟨⟨nofun, [14, 44], by decide +kernel⟩, ⟨nofun, [31], by decide +kernel⟩⟩)
  obtain ⟨hinclusive, -, hitems⟩ := hfeeds feeds hset
  refine ⟨husernames, hnamed, feeds, hset, ?_, ?_, ?_⟩
  · exact eq_false_of_ne_true fun h => absurd (hinclusive.1 h) (by decide)
  · rw [hitems]
    decide +kernel
  · rw [hitems]
    decide +kernel

end Search

end PostSearch
