import PostSearch.Site.Basic

/-! # Lookups

The questions that a search asks its site: accounts by id or by name, numbers of feeds by owner and
name, numbers of the feeds that an account reads. Feed numbers come in ascending order. -/

namespace PostSearch

/-- Put a number into an ascending list, unless it is there already. -/
def insertAscending (n : Int) : List Int → List Int
  | [] => [n]
  | m :: ms => if n < m then n :: m :: ms else if n = m then m :: ms else m :: insertAscending n ms

/-- The numbers in ascending order, each once. -/
def ascending (ns : List Int) : List Int :=
  ns.foldr insertAscending []

@[simp] theorem mem_insertAscending {k n : Int} {ms : List Int} :
    k ∈ insertAscending n ms ↔ k = n ∨ k ∈ ms := by
  induction ms with
  | nil => simp [insertAscending]
  | cons m ms ih =>
    unfold insertAscending
    split
    · simp
    · split
      · subst_vars; simp
      · simp [ih, or_left_comm]

@[simp] theorem mem_ascending {k : Int} {ns : List Int} : k ∈ ascending ns ↔ k ∈ ns := by
  induction ns with
  | nil => simp [ascending]
  | cons n ns ih => simp [ascending] at ih ⊢; simp [ih]

/-- A question to the site. -/
inductive Lookup where
  | accountById (id : String)
  | accountsByName (names : List String)
  | feedNumbers (owners : List String) (names : List FeedName)
  | subscribedNumbers (reader : String)
deriving DecidableEq, Repr

namespace Site

/-- The account of an id. Only ids in canonical form are looked for. -/
def accountById? (site : Site) (id : String) : Option Account :=
  if Uuid.isCanonical id.toList then site.accounts.find? (·.id == id) else none

/-- The account of exactly this username. -/
def accountByName? (site : Site) (name : String) : Option Account :=
  site.accounts.reverse.find? (·.username == name)

/-- The accounts of some names, each name once. -/
def accountsByName (site : Site) (names : List String) : List (String × Option Account) :=
  (distinct names).map fun name => (name, site.accountByName? name)

/-- The canonical form of an id. -/
def canonicalId (id : String) : Except Uuid.Error String :=
  (Uuid.parse id.toList).map fun n => String.ofList (Uuid.format n)

/-- Numbers of the feeds of these names and owners. -/
def feedNumbers (site : Site) (owners : List String) (names : List FeedName) :
    Except Uuid.Error (List Int) :=
  if owners = [] ∨ names = [] then .ok []
  else do
    let owners ← owners.mapM canonicalId
    return ascending
      ((site.feeds.filter fun f => f.owner ∈ owners ∧ f.name ∈ names).map Feed.number)

def subscribedNumbers (site : Site) (reader : String) : Except Uuid.Error (List Int) := do
  let reader ← canonicalId reader
  let read := (site.subscriptions.filter (·.reader == reader)).map Subscription.feed
  return ascending ((site.feeds.map Feed.number).filter (· ∈ read))

end Site

end PostSearch
