import Mathlib.Data.Set.Finite.Basic
import PostSearch.OpenList

/-! # The algebra of open lists

Open lists denote the finite and the cofinite sets of items. Of the items there are infinitely many,
so no list of finitely many items is also a list of all but finitely many: two open lists hold the
same items exactly if they agree as lists, up to order (`sameSet_iff`). The operations are those of
sets (`mem_union`, `mem_intersection`, `mem_inverse`), so every law of sets is an equation between
open lists (`laws`).

Replacing the items by images commutes with intersection as far as no two items have one image
(`mem_filterMap_intersection`).

Main statement: `operands_algebra`. -/

namespace PostSearch

instance : Infinite Scalar :=
  Infinite.of_injective Scalar.number fun _ _ h => Scalar.number.inj h

namespace OpenList

variable {α β γ : Type} {a b c : OpenList α} {x : α} {y : β}

/-! ### Membership -/

theorem mem_of_closed (h : a.inclusive = true) : x ∈ a ↔ x ∈ a.items := by
  rw [mem_def, h, eq_self, iff_true]

theorem mem_of_open (h : a.inclusive = false) : x ∈ a ↔ x ∉ a.items := by
  rw [mem_def, h, Bool.false_eq_true, iff_false]

theorem mem_everything : x ∈ (everything : OpenList α) :=
  (mem_of_open rfl).2 List.not_mem_nil

theorem notMem_empty : x ∉ (empty : OpenList α) :=
  fun h => List.not_mem_nil ((mem_of_closed rfl).1 h)

theorem mem_inverse : x ∈ a.inverse ↔ x ∉ a := by
  cases h : a.inclusive with
  | true => rw [mem_of_closed h, mem_of_open (by rw [inverse, h]; rfl), inverse]
  | false => rw [mem_of_open h, mem_of_closed (by rw [inverse, h]; rfl), inverse, not_not]

section decidable

variable [DecidableEq α]

theorem mem_ofItems {xs : List α} {inclusive : Bool} :
    x ∈ ofItems xs inclusive ↔ (x ∈ xs ↔ inclusive = true) := by
  rw [mem_def, ofItems, mem_distinct]

theorem mem_ofList {xs : List α} : x ∈ ofList xs ↔ x ∈ xs := by
  rw [ofList, mem_ofItems, eq_self, iff_true]

theorem mem_union : x ∈ a.union b ↔ x ∈ a ∨ x ∈ b := by
  unfold union
  rw [mem_def (a := a), mem_def (a := b)]
  cases a.inclusive <;> cases b.inclusive <;>
    simp only [mem_ofItems, List.mem_filter, List.mem_append, decide_eq_true_eq] <;> tauto

theorem mem_intersection : x ∈ a.intersection b ↔ x ∈ a ∧ x ∈ b := by
  unfold intersection
  rw [mem_def (a := a), mem_def (a := b)]
  cases a.inclusive <;> cases b.inclusive <;>
    simp only [mem_ofItems, List.mem_filter, List.mem_append, decide_eq_true_eq] <;> tauto

theorem mem_difference : x ∈ a.difference b ↔ x ∈ a ∧ x ∉ b := by
  rw [difference, mem_intersection, mem_inverse]

theorem mem_set {o : Operand α} : x ∈ o.set ↔ x ∈ o := by
  cases o with
  | openList a => exact Iff.rfl
  | items xs => exact mem_ofList

/-! ### Equality of sets -/

theorem exists_notMem_items [Infinite α] (xs : List α) : ∃ x, x ∉ xs := by
  obtain ⟨x, hx⟩ := Infinite.exists_notMem_finset xs.toFinset
  exact ⟨x, fun h => hx (List.mem_toFinset.2 h)⟩

/-- An open list and a closed one differ in the items that neither of them lists. -/
theorem inclusive_eq [Infinite α] (h : ∀ x, x ∈ a ↔ x ∈ b) : a.inclusive = b.inclusive := by
  obtain ⟨x, hx⟩ := exists_notMem_items (a.items ++ b.items)
  rw [List.mem_append, not_or] at hx
  have hsame := h x
  rw [mem_def, mem_def, iff_false_left hx.1, iff_false_left hx.2] at hsame
  exact Bool.eq_iff_iff.2 (not_iff_not.1 hsame)

theorem sameSet_eq_true :
    sameSet a b = true ↔ a.inclusive = b.inclusive ∧ ∀ x, x ∈ a.items ↔ x ∈ b.items := by
  simp only [sameSet, Bool.and_eq_true, beq_iff_eq, List.all_eq_true, decide_eq_true_eq, and_assoc,
    ← forall_and, iff_def]

theorem sameSet_iff [Infinite α] : sameSet a b = true ↔ ∀ x, x ∈ a ↔ x ∈ b := by
  rw [sameSet_eq_true]
  constructor
  · rintro ⟨hinclusive, hitems⟩ x
    rw [mem_def, mem_def, hinclusive, hitems x]
  · intro h
    have hinclusive := inclusive_eq h
    refine ⟨hinclusive, fun x => ?_⟩
    cases hb : b.inclusive with
    | true => exact (mem_of_closed (hinclusive.trans hb)).symm.trans ((h x).trans (mem_of_closed hb))
    | false =>
        have houtside := (mem_of_open (hinclusive.trans hb)).symm.trans ((h x).trans (mem_of_open hb))
        exact not_iff_not.1 houtside

/-- Open lists hold the finite and the cofinite sets, and no others. -/
theorem exists_mem_iff (s : Set α) :
    (∃ a : OpenList α, ∀ x, x ∈ a ↔ x ∈ s) ↔ s.Finite ∨ sᶜ.Finite := by
  constructor
  · rintro ⟨a, ha⟩
    cases h : a.inclusive with
    | true =>
        refine Or.inl (a.items.finite_toSet.subset fun x hx => ?_)
        exact (mem_of_closed h).1 ((ha x).2 hx)
    | false =>
        refine Or.inr (a.items.finite_toSet.subset fun x hx => ?_)
        by_contra hitem
        exact hx ((ha x).1 ((mem_of_open h).2 hitem))
  · rintro (h | h)
    · refine ⟨ofList h.toFinset.toList, fun x => ?_⟩
      rw [mem_ofList, Finset.mem_toList, Set.Finite.mem_toFinset]
    · refine ⟨(ofList h.toFinset.toList).inverse, fun x => ?_⟩
      rw [mem_inverse, mem_ofList, Finset.mem_toList, Set.Finite.mem_toFinset, Set.mem_compl_iff,
        not_not]

/-! ### Laws -/

/-- The laws of sets as equations between open lists. -/
structure Laws (a b c : OpenList α) : Prop where
  inverse_inverse : sameSet a.inverse.inverse a
  inverse_union : sameSet (a.union b).inverse (a.inverse.intersection b.inverse)
  inverse_intersection : sameSet (a.intersection b).inverse (a.inverse.union b.inverse)
  union_comm : sameSet (a.union b) (b.union a)
  intersection_comm : sameSet (a.intersection b) (b.intersection a)
  union_assoc : sameSet ((a.union b).union c) (a.union (b.union c))
  intersection_assoc : sameSet ((a.intersection b).intersection c) (a.intersection (b.intersection c))
  union_intersection : sameSet (a.union (b.intersection c)) ((a.union b).intersection (a.union c))
  intersection_union :
    sameSet (a.intersection (b.union c)) ((a.intersection b).union (a.intersection c))
  union_absorbs : sameSet (a.union (a.intersection b)) a
  intersection_absorbs : sameSet (a.intersection (a.union b)) a
  union_empty : sameSet (a.union empty) a
  intersection_empty : sameSet (a.intersection empty) empty
  union_everything : sameSet (a.union everything) everything
  intersection_everything : sameSet (a.intersection everything) a
  union_inverse : sameSet (a.union a.inverse) everything
  intersection_inverse : sameSet (a.intersection a.inverse) empty

theorem laws [Infinite α] (a b c : OpenList α) : Laws a b c := by
  constructor <;> rw [sameSet_iff] <;> intro x <;>
    simp only [mem_union, mem_intersection, mem_inverse, mem_everything, notMem_empty] <;> tauto

theorem isEmpty_iff [Infinite α] : a.isEmpty = true ↔ ∀ x, x ∉ a := by
  have hempty : a.isEmpty = true ↔ sameSet a empty = true := by
    rw [sameSet_eq_true, isEmpty, Bool.and_eq_true, List.isEmpty_iff, List.eq_nil_iff_forall_not_mem]
    simp [empty]
  rw [hempty, sameSet_iff]
  simp only [notMem_empty, iff_false]

theorem isEverything_iff [Infinite α] : a.isEverything = true ↔ ∀ x, x ∈ a := by
  have hinverse : a.isEverything = a.inverse.isEmpty := rfl
  rw [hinverse, isEmpty_iff]
  simp only [mem_inverse, not_not]

/-- The operations on open lists, or on plain items, are those of sets, and each of their results
lists no item twice. Equality is that of sets, for which all laws of sets hold; the empty list and
the list of everything are told from all others. The sets are the finite and the cofinite ones. -/
theorem operands_algebra (a b : Operand Scalar) :
    (∀ x,
      (x ∈ a.set.union b.set ↔ x ∈ a ∨ x ∈ b) ∧
      (x ∈ a.set.intersection b.set ↔ x ∈ a ∧ x ∈ b) ∧
      (x ∈ a.set.difference b.set ↔ x ∈ a ∧ x ∉ b) ∧
      (x ∈ a.set.inverse ↔ x ∉ a)) ∧
    ((a.set.union b.set).items.Nodup ∧ (a.set.intersection b.set).items.Nodup ∧
      (a.set.difference b.set).items.Nodup ∧ a.set.inverse.items.Nodup) ∧
    (a.set.sameSet b.set = true ↔ ∀ x, x ∈ a ↔ x ∈ b) ∧
    (∀ c, Laws a.set b.set c) ∧
    (a.set.isEmpty = true ↔ ∀ x, x ∉ a) ∧
    (a.set.isEverything = true ↔ ∀ x, x ∈ a) ∧
    ∀ s : Set Scalar, (∃ c : OpenList Scalar, ∀ x, x ∈ c ↔ x ∈ s) ↔ s.Finite ∨ sᶜ.Finite := by
  simp only [← mem_set]
  refine ⟨fun x => ⟨mem_union, mem_intersection, mem_difference, mem_inverse⟩,
    ⟨nodup _, nodup _, nodup _, nodup _⟩, sameSet_iff, laws _ _, isEmpty_iff, isEverything_iff,
    exists_mem_iff⟩

end decidable

/-! ### Images -/

section images

variable [DecidableEq β] {f : α → Option β} {P : α → Prop}

/-- No two items with the property have one image. -/
def Separates (f : α → Option β) (P : α → Prop) : Prop :=
  ∀ x x' y, P x → P x' → f x = some y → f x' = some y → x = x'

theorem mem_filterMap :
    y ∈ a.filterMap f ↔ ((∃ x ∈ a.items, f x = some y) ↔ a.inclusive = true) := by
  rw [filterMap, mem_ofItems, List.mem_filterMap]

theorem mem_filterMap_everything : y ∈ (everything : OpenList α).filterMap f :=
  mem_everything

/-- An image is in the list of images exactly if its item is in the list. -/
theorem mem_filterMap_of_image (hf : Separates f P) (ha : ∀ x ∈ a.items, P x) (hx : P x)
    (hy : f x = some y) : y ∈ a.filterMap f ↔ x ∈ a := by
  have himage : (∃ x' ∈ a.items, f x' = some y) ↔ x ∈ a.items := by
    constructor
    · rintro ⟨x', hx', hy'⟩
      rwa [hf x x' y hx (ha x' hx') hy hy']
    · exact fun h => ⟨x, h, hy⟩
  rw [mem_filterMap, himage, mem_def]

/-- What is no image is in the images of open lists. -/
theorem mem_filterMap_of_no_image (ha : ∀ x ∈ a.items, P x) (hy : ∀ x, P x → f x ≠ some y) :
    y ∈ a.filterMap f ↔ a.inclusive = false := by
  have hnone : ¬∃ x ∈ a.items, f x = some y := fun ⟨x, hx, h⟩ => hy x (ha x hx) h
  rw [mem_filterMap, iff_false_left hnone, Bool.not_eq_true]

variable [DecidableEq α]

theorem inclusive_intersection :
    (a.intersection b).inclusive = false ↔ a.inclusive = false ∧ b.inclusive = false := by
  unfold intersection
  cases a.inclusive <;> cases b.inclusive <;> simp [ofItems]

/-- An intersection lists nothing that neither list does. -/
theorem forall_mem_intersection (ha : ∀ x ∈ a.items, P x) (hb : ∀ x ∈ b.items, P x) :
    ∀ x ∈ (a.intersection b).items, P x := by
  intro x hx
  have hlisted : x ∈ a.items ∨ x ∈ b.items := by
    unfold intersection at hx
    cases ha : a.inclusive <;> cases hb : b.inclusive <;>
      simp only [ha, hb, ofItems, mem_distinct, List.mem_filter, List.mem_append] at hx <;> tauto
  exact hlisted.elim (ha x) (hb x)

/-- Images of an intersection are the images of both, if no two of the items listed have one image.
-/
theorem mem_filterMap_intersection (hf : Separates f P) (ha : ∀ x ∈ a.items, P x)
    (hb : ∀ x ∈ b.items, P x) :
    y ∈ (a.intersection b).filterMap f ↔ y ∈ a.filterMap f ∧ y ∈ b.filterMap f := by
  have hboth := forall_mem_intersection ha hb
  by_cases himage : ∃ x, P x ∧ f x = some y
  · obtain ⟨x, hx, hy⟩ := himage
    rw [mem_filterMap_of_image hf hboth hx hy, mem_filterMap_of_image hf ha hx hy,
      mem_filterMap_of_image hf hb hx hy, mem_intersection]
  · have hnone : ∀ x, P x → f x ≠ some y := fun x hx hy => himage ⟨x, hx, hy⟩
    rw [mem_filterMap_of_no_image hboth hnone, mem_filterMap_of_no_image ha hnone,
      mem_filterMap_of_no_image hb hnone, inclusive_intersection]

theorem mem_filterMap_foldl {g : γ → OpenList α} (hf : Separates f P) :
    ∀ {ks : List γ} {start : OpenList α}, (∀ x ∈ start.items, P x) →
      (∀ k ∈ ks, ∀ x ∈ (g k).items, P x) →
      (y ∈ (ks.foldl (fun allowed k => allowed.intersection (g k)) start).filterMap f ↔
        y ∈ start.filterMap f ∧ ∀ k ∈ ks, y ∈ (g k).filterMap f)
  | [], start, _, _ => by simp
  | k :: ks, start, hstart, hks => by
      obtain ⟨hk, hks⟩ := List.forall_mem_cons.1 hks
      rw [List.foldl_cons, mem_filterMap_foldl hf (forall_mem_intersection hstart hk) hks,
        mem_filterMap_intersection hf hstart hk, List.forall_mem_cons, and_assoc]

end images

end OpenList

end PostSearch
