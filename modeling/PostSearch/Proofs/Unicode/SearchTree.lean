import Mathlib
import PostSearch.Unicode.CombiningClass
import PostSearch.Unicode.Composites
import PostSearch.Unicode.CodeRange

/-! # Tables as search trees

The tables of code points are walked row by row. A fact that looks up what every row of a large
table mentions needs thousands of walks; a balanced tree of the same rows finds each row in a dozen
steps, and finds what the walk finds (`search_tree`). -/

namespace PostSearch.Unicode

variable {α : Type} {lo hi : α → Nat} {c : Nat} {rows : List α}

/-- Row `a` takes the keys from `lo a` to `hi a`, and all keys of row `b` are above them. -/
def Precedes (lo hi : α → Nat) (a b : α) : Prop :=
  lo a ≤ hi a ∧ hi a < lo b

instance : DecidableRel (Precedes lo hi) :=
  fun a b => inferInstanceAs (Decidable (lo a ≤ hi a ∧ hi a < lo b))

instance : Trans (Precedes lo hi) (Precedes lo hi) (Precedes lo hi) where
  trans hab hbc := ⟨hab.1, by unfold Precedes at hab hbc; omega⟩

/-- The rows take keys in ascending order. -/
def IsAscending (lo hi : α → Nat) (rows : List α) : Prop :=
  rows.IsChain (Precedes lo hi)

instance : DecidablePred (IsAscending lo hi) :=
  fun rows => inferInstanceAs (Decidable (rows.IsChain (Precedes lo hi)))

/-- The first row that takes the key `c`. -/
def rowOf? (lo hi : α → Nat) (c : Nat) (rows : List α) : Option α :=
  rows.find? fun r => lo r ≤ c && c ≤ hi r

/-- Rows of a tree, from left to right. -/
def treeRows : BinaryTree α → List α
  | .nil => []
  | .node r left right => treeRows left ++ r :: treeRows right

/-- The row of a tree that takes the key `c`, if the rows ascend. The kernel evaluates a recursor
much faster than a structural recursion. -/
def search (lo hi : α → Nat) (c : Nat) (t : BinaryTree α) : Option α :=
  t.rec none fun r _ _ left right =>
    bif Nat.ble (lo r) c then bif Nat.ble c (hi r) then some r else right else left

/-- A full tree of `depth` levels from the first rows, or a smaller one from all of them; and the
rows it has no place for. -/
def grow : Nat → List α → BinaryTree α × List α
  | 0, rows => (.nil, rows)
  | depth + 1, rows =>
    match grow depth rows with
    | (left, []) => (left, [])
    | (left, r :: rows) =>
      match grow depth rows with
      | (right, rest) => (.node r left right, rest)

/-- A balanced tree of all rows. -/
def tree (rows : List α) : BinaryTree α :=
  (grow (rows.length.log2 + 1) rows).1

/-! ### Growing a tree -/

theorem treeRows_grow (depth : Nat) (rows : List α) :
    treeRows (grow depth rows).1 ++ (grow depth rows).2 = rows := by
  fun_induction grow depth rows with
  | case1 rows => rfl
  | case2 depth rows left h ih => rwa [h] at ih
  | case3 depth rows left r rest h right rest' hright ihleft ih =>
      rw [h] at ihleft
      rw [hright] at ih
      rw [treeRows, List.append_assoc, List.cons_append, ih, ihleft]

theorem length_grow (depth : Nat) (rows : List α) :
    (grow depth rows).2.length = rows.length + 1 - 2 ^ depth := by
  fun_induction grow depth rows with
  | case1 rows => rfl
  | case2 depth rows left h ih =>
      have hpow := Nat.pow_succ (n := 2) (m := depth)
      rw [h, List.length_nil] at ih
      rw [List.length_nil]
      omega
  | case3 depth rows left r rest h right rest' hright ihleft ih =>
      have hpow := Nat.pow_succ (n := 2) (m := depth)
      rw [h, List.length_cons] at ihleft
      rw [hright] at ih
      dsimp only at ih ⊢
      omega

theorem treeRows_tree : treeRows (tree rows) = rows := by
  have hrest : (grow (rows.length.log2 + 1) rows).2 = [] := by
    have hroom := Nat.lt_log2_self (n := rows.length)
    rw [← List.length_eq_zero_iff, length_grow]
    omega
  have h := treeRows_grow (rows.length.log2 + 1) rows
  rwa [hrest, List.append_nil] at h

/-! ### Finding a row -/

theorem rowOf?_eq_none (h : ∀ r ∈ rows, c < lo r ∨ hi r < c) : rowOf? lo hi c rows = none := by
  refine List.find?_eq_none.2 fun r hr htaken => ?_
  rcases h r hr with hlo | hhi <;> simp at htaken <;> omega

theorem search_node {r : α} {left right : BinaryTree α} :
    search lo hi c (.node r left right) =
      bif Nat.ble (lo r) c then bif Nat.ble c (hi r) then some r else search lo hi c right
      else search lo hi c left :=
  rfl

theorem search_eq {t : BinaryTree α} (h : (treeRows t).Pairwise (Precedes lo hi)) :
    search lo hi c t = rowOf? lo hi c (treeRows t) := by
  induction t with
  | nil => rfl
  | node r left right ihleft ihright =>
      obtain ⟨hleft, hnode, hbefore⟩ := List.pairwise_append.1 h
      obtain ⟨hafter, hright⟩ := List.pairwise_cons.1 hnode
      have hsplit : rowOf? lo hi c (treeRows (.node r left right)) =
          (rowOf? lo hi c (treeRows left)).or (rowOf? lo hi c (r :: treeRows right)) :=
        List.find?_append
      rw [hsplit, search_node]
      cases hlo : Nat.ble (lo r) c with
      | false =>
          -- The row and all rows to its right take larger keys.
          rw [← Bool.not_eq_true, Nat.ble_eq] at hlo
          have hnone : rowOf? lo hi c (r :: treeRows right) = none := by
            refine rowOf?_eq_none fun q hq => Or.inl ?_
            rcases List.mem_cons.1 hq with rfl | hq
            · omega
            · obtain ⟨hr, hrq⟩ := hafter q hq
              omega
          rw [hnone, Option.or_none, cond_false, ihleft hleft]
      | true =>
          rw [Nat.ble_eq] at hlo
          have hnone : rowOf? lo hi c (treeRows left) = none := by
            refine rowOf?_eq_none fun q hq => Or.inr ?_
            obtain ⟨-, hqr⟩ := hbefore q hq r List.mem_cons_self
            omega
          rw [hnone, Option.none_or, cond_true]
          cases hhi : Nat.ble c (hi r) with
          | false =>
              rw [← Bool.not_eq_true, Nat.ble_eq] at hhi
              rw [cond_false, ihright hright]
              exact (List.find?_cons_of_neg (by simp; omega)).symm
          | true =>
              rw [Nat.ble_eq] at hhi
              rw [cond_true]
              exact (List.find?_cons_of_pos (by simp; omega)).symm

/-- The tree of an ascending table finds the row that the walk finds. -/
theorem search_tree (h : IsAscending lo hi rows) :
    search lo hi c (tree rows) = rowOf? lo hi c rows := by
  rw [search_eq (by rw [treeRows_tree]; exact List.isChain_iff_pairwise.1 h), treeRows_tree]

/-! ### The walks

Each walk over an ascending table is `rowOf?`, read in its own way. -/

theorem IsAscending.tail {r : α} (h : IsAscending lo hi (r :: rows)) : IsAscending lo hi rows :=
  List.IsChain.tail h

theorem IsAscending.precedes {r q : α} (h : IsAscending lo hi (r :: rows)) (hq : q ∈ rows) :
    Precedes lo hi r q :=
  List.rel_of_pairwise_cons (List.isChain_iff_pairwise.1 h) hq

theorem rowOf?_of_le {r : α} (h : IsAscending lo hi (r :: rows)) (hc : c ≤ hi r ∨ c < lo r) :
    rowOf? lo hi c rows = none := by
  refine rowOf?_eq_none fun q hq => Or.inl ?_
  obtain ⟨hr, hrq⟩ := h.precedes hq
  omega

theorem rowOf?_cons {r : α} (h : IsAscending lo hi (r :: rows)) :
    rowOf? lo hi c (r :: rows) =
      if c < lo r then none else if c ≤ hi r then some r else rowOf? lo hi c rows := by
  by_cases hlo : c < lo r
  · rw [if_pos hlo, ← rowOf?_of_le h (Or.inr hlo)]
    exact List.find?_cons_of_neg (by simp; omega)
  · rw [if_neg hlo]
    by_cases hhi : c ≤ hi r
    · rw [if_pos hhi]
      exact List.find?_cons_of_pos (by simp; omega)
    · rw [if_neg hhi]
      exact List.find?_cons_of_neg (by simp; omega)

/-- Image of `c` under a run. -/
def CodeRun.image? (c : Nat) (r : CodeRun) : Option Nat :=
  if (c - r.first) % r.step = 0 then some (r.image + (c - r.first)) else none

theorem imageInRuns_eq {table : List CodeRun} (h : IsAscending CodeRun.first CodeRun.last table) :
    imageInRuns c table =
      (rowOf? CodeRun.first CodeRun.last c table).bind (CodeRun.image? c) := by
  induction table with
  | nil => rfl
  | cons r rs ih =>
      rw [imageInRuns, rowOf?_cons h]
      by_cases hfirst : c < r.first
      · rw [if_pos hfirst, if_pos hfirst]
        rfl
      · rw [if_neg hfirst, if_neg hfirst]
        by_cases hlast : c ≤ r.last
        · rw [if_pos hlast, Option.bind_some, CodeRun.image?]
          by_cases hstep : (c - r.first) % r.step = 0
          · rw [if_pos ⟨hlast, hstep⟩, if_pos hstep]
          · rw [if_neg fun h => hstep h.2, if_neg hstep, ih h.tail, rowOf?_of_le h (Or.inl hlast)]
            rfl
        · rw [if_neg fun h => hlast h.1, if_neg hlast, ih h.tail]

theorem expansionOf?_eq {table : List Expansion}
    (h : IsAscending Expansion.code Expansion.code table) :
    expansionOf? c table = (rowOf? Expansion.code Expansion.code c table).map Expansion.image := by
  induction table with
  | nil => rfl
  | cons e es ih =>
      rw [expansionOf?, rowOf?_cons h, ih h.tail]
      by_cases hlt : c < e.code
      · rw [if_pos hlt, if_pos hlt]
        rfl
      · rw [if_neg hlt, if_neg hlt]
        by_cases heq : c = e.code
        · rw [if_pos heq, if_pos (le_of_eq heq)]
          rfl
        · rw [if_neg heq, if_neg (by omega)]

theorem classIn_eq {table : List ClassRange}
    (h : IsAscending ClassRange.first ClassRange.last table) :
    classIn c table =
      ((rowOf? ClassRange.first ClassRange.last c table).map ClassRange.cls).getD 0 := by
  induction table with
  | nil => rfl
  | cons r rs ih =>
      rw [classIn, rowOf?_cons h, ih h.tail]
      split
      · rfl
      · split <;> rfl

/-- Number of a pair: the pairs of a table of composites are numbered in its order. -/
def pairNumber (first second : Nat) : Nat :=
  second * 2 ^ 21 + first

def Composite.number (r : Composite) : Nat :=
  pairNumber r.first r.second

theorem pairNumber_inj {first first' : Nat} (second second' : Nat) (h : first < 2 ^ 21)
    (h' : first' < 2 ^ 21) :
    pairNumber first second = pairNumber first' second' ↔ second' = second ∧ first' = first := by
  unfold pairNumber
  omega

theorem compositeIn_eq {first second : Nat} {table : List Composite}
    (h : IsAscending Composite.number Composite.number table)
    (hfirst : first < 2 ^ 21) (hrows : ∀ r ∈ table, r.first < 2 ^ 21) :
    compositeIn first second table =
      (rowOf? Composite.number Composite.number (pairNumber first second) table).map
        Composite.code := by
  induction table with
  | nil => rfl
  | cons r rs ih =>
      have hrow := hrows r List.mem_cons_self
      have hpair := pairNumber_inj second r.second hfirst hrow
      have hlt : second < r.second → pairNumber first second < r.number := by
        unfold Composite.number pairNumber
        omega
      rw [compositeIn, rowOf?_cons h, ih h.tail fun r hr => hrows r (List.mem_cons_of_mem _ hr)]
      by_cases hsecond : second < r.second
      · rw [if_pos hsecond, if_pos (hlt hsecond)]
        rfl
      · rw [if_neg hsecond]
        by_cases heq : r.second = second ∧ r.first = first
        · rw [if_pos heq, if_neg (by rw [Composite.number, ← hpair.2 heq]; omega),
            if_pos (by rw [Composite.number, ← hpair.2 heq])]
          rfl
        · rw [if_neg heq]
          by_cases hbelow : pairNumber first second < r.number
          · rw [if_pos hbelow, rowOf?_of_le h (Or.inr hbelow)]
          · have hne : pairNumber first second ≠ r.number := fun e => heq (hpair.1 e)
            rw [if_neg hbelow, if_neg (by omega)]

end PostSearch.Unicode
