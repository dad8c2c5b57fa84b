import PostSearch.Proofs.OpenList
import PostSearch.Proofs.Search.Resolving

/-! # Authors that are allowed

Conditions on authors are intersected as lists of names, which are replaced by ids at the end; names
without accounts are left out. An id that is left is one that every single condition allows, since
accounts are found under their own usernames: then no two names have one id, and it makes no
difference whether names are intersected or ids.

Main statement: `mem_idsOf_authors`, for conditions on authors of posts and, scope by scope, of
texts. Resolved names are told apart as it supposes (`tellsApart_resolved`). -/

namespace PostSearch

namespace Clause

open Query OpenList

variable {accounts : Accounts} {tokens : List Token} {c : Condition} {id : String}
  {used : String → Prop}

/-! ### One condition -/

/-- The id is that of some argument's account. -/
def NamesId (accounts : Accounts) (c : Condition) (id : String) : Prop :=
  ∃ arg ∈ c.args, ∃ a, accounts.find? arg = some a ∧ a.id = id

/-- The condition names the id if it asks for names, and does not name it if it excludes them. -/
def AllowsId (accounts : Accounts) (c : Condition) (id : String) : Prop :=
  (c.excluded = false → NamesId accounts c id) ∧ (c.excluded = true → ¬NamesId accounts c id)

theorem mem_idsOf_allowedNames : id ∈ idsOf (allowedNames c) accounts ↔ AllowsId accounts c id := by
  have hnamed : (∃ name ∈ distinct c.args, (accounts.find? name).map Account.id = some id) ↔
      NamesId accounts c id := by
    simp only [mem_distinct, Option.map_eq_some_iff]
    rfl
  have hmem : id ∈ idsOf (allowedNames c) accounts ↔ (NamesId accounts c id ↔ (!c.excluded) = true) := by
    rw [← hnamed]
    exact mem_filterMap
  unfold AllowsId
  rw [hmem]
  cases c.excluded <;> simp

/-! ### Several conditions -/

/-- Under the names that are used, accounts of these usernames are found, and accounts of different
usernames have different ids. -/
structure Accounts.TellsApart (accounts : Accounts) (used : String → Prop) : Prop where
  username : ∀ {name a}, used name → accounts.find? name = some a → a.username = name
  id : ∀ {name name' a b}, used name → used name' → accounts.find? name = some a →
    accounts.find? name' = some b → a.username ≠ b.username → a.id ≠ b.id

theorem Accounts.TellsApart.separates (h : accounts.TellsApart used) :
    Separates (fun name => (accounts.find? name).map Account.id) used := by
  intro name name' id hname hname' hid hid'
  obtain ⟨a, ha, rfl⟩ := Option.map_eq_some_iff.1 hid
  obtain ⟨b, hb, hsame⟩ := Option.map_eq_some_iff.1 hid'
  by_contra hne
  refine h.id hname hname' ha hb ?_ hsame.symm
  rwa [h.username hname ha, h.username hname' hb]

/-- The ids that are left are those that all conditions allow. -/
theorem mem_idsOf_allowedByAll {o : Operator} (h : accounts.TellsApart used)
    (hused : ∀ c ∈ conditionsOf o tokens, ∀ arg ∈ c.args, used arg) :
    id ∈ idsOf (allowedByAll o tokens) accounts ↔
      ∀ c ∈ conditionsOf o tokens, AllowsId accounts c id := by
  have hlisted : ∀ c ∈ conditionsOf o tokens, ∀ name ∈ (allowedNames c).items, used name :=
    fun c hc name hname => hused c hc name (mem_distinct.1 hname)
  have hstart : ∀ name ∈ (everything : OpenList String).items, used name :=
    fun _ hname => absurd hname List.not_mem_nil
  unfold idsOf allowedByAll
  rw [mem_filterMap_foldl h.separates hstart hlisted, and_iff_right mem_filterMap_everything]
  exact forall₂_congr fun c _ => mem_idsOf_allowedNames

theorem mem_conditionsOf_inScope {o : Operator} {s : Scope} :
    c ∈ conditionsOf o (inScope s tokens) ↔
      (.condition c, s) ∈ withScope tokens ∧ c.operator = o := by
  rw [mem_conditionsOf, inScope, List.mem_map]
  refine and_congr_left fun _ => ⟨?_, fun h => ⟨_, List.mem_filter.2 ⟨h, by simp⟩, rfl⟩⟩
  rintro ⟨⟨t, s'⟩, hp, rfl⟩
  obtain ⟨hp, hs⟩ := List.mem_filter.1 hp
  rwa [← of_decide_eq_true hs]

def NamesAuthor (tokens : List Token) (name : String) : Prop :=
  ∃ c, .condition c ∈ tokens ∧ (c.operator = .postBy ∨ c.operator = .textBy) ∧ name ∈ c.args

/-- An id is allowed for posts if every condition on their authors allows it, and for texts of a
scope if every condition of exactly this scope on authors of texts does. -/
theorem mem_idsOf_authors (h : accounts.TellsApart (NamesAuthor tokens)) (id : String)
    (scope : Scope) :
    (id ∈ idsOf (postAuthors tokens) accounts ↔
      ∀ c, .condition c ∈ tokens → c.operator = .postBy → AllowsId accounts c id) ∧
    (id ∈ idsOf (textAuthors tokens scope) accounts ↔
      ∀ c, (.condition c, scope) ∈ withScope tokens → c.operator = .textBy →
        AllowsId accounts c id) := by
  have hposts : ∀ c ∈ conditionsOf .postBy tokens, ∀ arg ∈ c.args, NamesAuthor tokens arg := by
    intro c hc arg harg
    obtain ⟨hmem, ho⟩ := mem_conditionsOf.1 hc
    exact ⟨c, hmem, Or.inl ho, harg⟩
  have htexts : ∀ c ∈ conditionsOf .textBy (inScope scope tokens), ∀ arg ∈ c.args,
      NamesAuthor tokens arg := by
    intro c hc arg harg
    obtain ⟨hmem, ho⟩ := mem_conditionsOf.1 hc
    exact ⟨c, mem_of_inScope hmem, Or.inr ho, harg⟩
  constructor
  · rw [postAuthors, mem_idsOf_allowedByAll h hposts]
    simp only [mem_conditionsOf, and_imp]
  · rw [textAuthors, mem_idsOf_allowedByAll h htexts]
    simp only [mem_conditionsOf_inScope, and_imp]

end Clause

namespace Search

open Query Clause

variable {site : Site} {options : Options} {tokens named : List Token}

/-- Resolved names are told apart if the site's accounts have distinct ids. -/
theorem tellsApart_resolved (hids : (site.accounts.map Account.id).Nodup)
    (h : nameViewerIn (options.viewer.bind site.accountById?) tokens = .ok named) :
    (accountsOf site (options.viewer.bind site.accountById?) (accountNames named)).TellsApart
      (NamesAuthor named) := by
  have hused : ∀ {name}, NamesAuthor named name → name ∈ accountNames named := by
    rintro name ⟨c, hc, ho, hname⟩
    refine mem_accountNames.2 ⟨c, hc, ?_, hname⟩
    rcases ho with ho | ho <;> rw [ho] <;> decide
  refine ⟨fun hname ha => (find?_spec h (hused hname) ha).2, ?_⟩
  intro name name' a b hname hname' ha hb hne hid
  have hsame := List.inj_on_of_nodup_map hids (find?_spec h (hused hname) ha).1
    (find?_spec h (hused hname') hb).1 hid
  exact hne (congrArg Account.username hsame)

/-- Posts by two who are known and one who is not, less those by one of them, with comments that are
not by the other. -/
def fromTwo : List Token :=
  [.condition ⟨false, .postBy, ["me", "bob", "nobody"]⟩, .condition ⟨true, .postBy, ["bob"]⟩,
    .scopeStart .comments, .condition ⟨true, .textBy, ["me", "nessie"]⟩]

theorem authors_of_fromTwo :
    let named := fromTwo.map (Token.written "alice")
    let accounts := accountsOf Site.small (asFirst.viewer.bind Site.small.accountById?)
      (accountNames named)
    accounts.TellsApart (NamesAuthor named) ∧
    (Site.smallId 1 ∈ idsOf (postAuthors named) accounts ∧
      ∀ c, .condition c ∈ named → c.operator = .postBy → AllowsId accounts c (Site.smallId 1)) ∧
    (Site.smallId 1 ∉ idsOf (textAuthors named .comments) accounts ∧
      ¬∀ c, (.condition c, .comments) ∈ withScope named → c.operator = .textBy →
        AllowsId accounts c (Site.smallId 1)) := by
  have hapart := tellsApart_resolved (by decide +kernel) (nameViewerIn_asFirst fromTwo)
  obtain ⟨hposts, htexts⟩ := mem_idsOf_authors hapart (Site.smallId 1) .comments
  have hallowed : Site.smallId 1 ∈ idsOf (postAuthors (fromTwo.map (Token.written "alice")))
      (accountsOf Site.small (asFirst.viewer.bind Site.small.accountById?)
        (accountNames (fromTwo.map (Token.written "alice")))) := by
    decide +kernel
  have hexcluded : Site.smallId 1 ∉ idsOf
      (textAuthors (fromTwo.map (Token.written "alice")) .comments)
      (accountsOf Site.small (asFirst.viewer.bind Site.small.accountById?)
        (accountNames (fromTwo.map (Token.written "alice")))) := by
    decide +kernel
  exact ⟨hapart, ⟨hallowed, hposts.1 hallowed⟩, hexcluded, mt htexts.2 hexcluded⟩

end Search

end PostSearch
