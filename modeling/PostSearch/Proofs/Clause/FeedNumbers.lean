import PostSearch.Clause.Feeds
import PostSearch.Proofs.Except

/-! # Feeds of a condition

The numbers that are looked up for a feed condition are those of the feeds that it means: feeds of
certain names that certain accounts own, or feeds that an account reads. Accounts and feeds are
joined by the canonical form of the accounts' ids.

Main statement: `feedSet_ok`. -/

namespace PostSearch

/-- The account owns the feed. An id may be spelled in several ways; a feed knows its owner by the
canonical one. -/
def Account.Owns (a : Account) (f : Feed) : Prop :=
  Site.canonicalId a.id = .ok f.owner

instance (a : Account) (f : Feed) : Decidable (a.Owns f) :=
  inferInstanceAs (Decidable (_ = _))

def Account.Reads (site : Site) (a : Account) (n : Int) : Prop :=
  ∃ s ∈ site.subscriptions, Site.canonicalId a.id = .ok s.reader ∧ s.feed = n

theorem Account.owns_iff {a : Account} {f : Feed} (hid : Site.canonicalId a.id = .ok a.id) :
    a.Owns f ↔ f.owner = a.id := by
  unfold Owns
  rw [hid, Except.ok.injEq, eq_comm]

namespace Site

variable {site : Site} {n : Int} {numbers : List Int}

/-! ### Answers of the site -/

theorem canonicalId_of_isCanonical {id : String} (h : Uuid.isCanonical id.toList = true) :
    canonicalId id = .ok id := by
  obtain ⟨-, n, hparse, hformat⟩ := Uuid.isCanonical_iff.1 h
  unfold canonicalId
  rw [hparse, Except.map, hformat, String.ofList_toList]

theorem mem_feedNumbers {owners : List String} {names : List FeedName}
    (h : site.feedNumbers owners names = .ok numbers) :
    n ∈ numbers ↔ ∃ id ∈ owners, ∃ f ∈ site.feeds,
      canonicalId id = .ok f.owner ∧ f.name ∈ names ∧ f.number = n := by
  unfold feedNumbers at h
  split at h
  · rename_i hempty
    cases h
    refine iff_of_false List.not_mem_nil ?_
    rintro ⟨id, hid, f, -, -, hname, -⟩
    rcases hempty with rfl | rfl
    · exact List.not_mem_nil hid
    · exact List.not_mem_nil hname
  · obtain ⟨canonical, hcanonical, h⟩ := bind_eq_ok.1 h
    cases h
    have hids := mapM_eq_ok hcanonical
    simp only [mem_ascending, List.mem_map, List.mem_filter, decide_eq_true_eq]
    constructor
    · rintro ⟨f, ⟨hf, howner, hname⟩, rfl⟩
      obtain ⟨id, hid, h⟩ := exists_of_mem_right hids howner
      exact ⟨id, hid, f, hf, h, hname, rfl⟩
    · rintro ⟨id, hid, f, hf, howner, hname, rfl⟩
      obtain ⟨owner, hmem, h⟩ := exists_of_mem_right hids.flip hid
      obtain rfl := Except.ok.inj (h.symm.trans howner)
      exact ⟨f, ⟨hf, hmem, hname⟩, rfl⟩

theorem mem_subscribedNumbers {reader : String}
    (h : site.subscribedNumbers reader = .ok numbers) :
    n ∈ numbers ↔ (∃ s ∈ site.subscriptions, canonicalId reader = .ok s.reader ∧ s.feed = n) ∧
      ∃ f ∈ site.feeds, f.number = n := by
  obtain ⟨canonical, hcanonical, h⟩ := bind_eq_ok.1 h
  cases h
  simp only [hcanonical, Except.ok.injEq, mem_ascending, List.mem_filter, List.mem_map,
    decide_eq_true_eq, beq_iff_eq, and_assoc]
  rw [and_comm]
  exact and_congr_left fun _ => exists_congr fun s =>
    and_congr_right fun _ => and_congr_left fun _ => eq_comm

end Site

namespace Clause

open Query

variable {site : Site} {accounts : Accounts} {c : Condition} {n : Int}

/-! ### Sources -/

def FeedSource.Holds (site : Site) (n : Int) : FeedSource → Prop
  | .owned owners names =>
    ∃ a ∈ owners, ∃ f ∈ site.feeds, a.Owns f ∧ f.name ∈ names ∧ f.number = n
  | .subscribed reader => reader.Reads site n ∧ ∃ f ∈ site.feeds, f.number = n

theorem FeedSource.mem_numbers {source : FeedSource} {numbers : List Int}
    (h : source.numbers site = .ok numbers) : n ∈ numbers ↔ source.Holds site n := by
  cases source with
  | subscribed reader => exact Site.mem_subscribedNumbers (mapError_eq_ok.1 h)
  | owned owners names =>
      cases owners with
      | nil =>
          cases h
          exact iff_of_false List.not_mem_nil fun ⟨_, ha, _⟩ => List.not_mem_nil ha
      | cons a owners =>
          change (if names.any (· ∈ site.unavailable) then .error FeedError.unavailable
            else (site.feedNumbers (distinct ((a :: owners).map Account.id)) names).mapError
              .badId) = .ok numbers at h
          split at h
          · cases h
          · rw [Site.mem_feedNumbers (mapError_eq_ok.1 h)]
            simp only [mem_distinct, List.mem_map, exists_exists_and_eq_and]
            rfl

/-- The feeds of a condition are those from its sources, meant or excluded as it says. -/
theorem feedSet_ok {feeds : OpenList Int} (h : feedSet site accounts c = .ok feeds) :
    ∃ found, sources accounts c = .ok found ∧ feeds.inclusive = (!c.excluded) ∧
      ∀ n, n ∈ feeds.items ↔ ∃ source ∈ found, source.Holds site n := by
  obtain ⟨found, hfound, h⟩ := bind_eq_ok.1 h
  obtain ⟨numbers, hnumbers, h⟩ := bind_eq_ok.1 h
  cases h
  have hlookups := mapM_eq_ok hnumbers
  refine ⟨found, hfound, rfl, fun n => ?_⟩
  have hflat : n ∈ distinct numbers.flatten ↔ ∃ ns ∈ numbers, n ∈ ns := by
    rw [mem_distinct, List.mem_flatten]
  refine hflat.trans ⟨?_, ?_⟩
  · rintro ⟨ns, hns, hn⟩
    obtain ⟨source, hsource, h⟩ := exists_of_mem_right hlookups hns
    exact ⟨source, hsource, (FeedSource.mem_numbers h).1 hn⟩
  · rintro ⟨source, hsource, hn⟩
    obtain ⟨ns, hns, h⟩ := exists_of_mem_right hlookups.flip hsource
    exact ⟨ns, hns, (FeedSource.mem_numbers h).2 hn⟩

end Clause

end PostSearch
