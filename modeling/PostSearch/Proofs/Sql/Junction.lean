import PostSearch.Sql.Junction

/-! # What joining predicates comes to

Joining first leaves out what makes no difference (`kept`). Then the result is the absorbing
predicate, the identity, the one part that is left, or all that are left in parentheses
(`joinParts_cases`). Two consequences are used throughout: joined predicates depend on the row if
all of them do (`isNontrivial_joinParts`), and a part of a conjunction either stays in it or the
conjunction is false (`conjoin_of_mem`). -/

namespace PostSearch.Sql

/-! ### Fixed words -/

def constText (b : Bool) : String :=
  if b then "true" else "false"

/-- The word that joins, `or` if `b` is true. -/
def joiner (b : Bool) : String :=
  if b then "or" else "and"

theorem constText_inj {b c : Bool} : constText b = constText c ↔ b = c := by
  cases b <;> cases c <;> decide +kernel

theorem isNontrivial_constText (b : Bool) : isNontrivial (constText b) = false := by
  cases b <;> decide +kernel

/-! ### The parts that are kept -/

/-- The predicates that are there and make a difference. -/
def kept (identity : String) (parts : List String) : List String :=
  (parts.filter (· ≠ "")).filter (· ≠ identity)

/-- Several predicates with a word between them, in parentheses. -/
def grouped (joiner : String) (parts : List String) : String :=
  "(" ++ Text.joinWith (" " ++ joiner ++ " ") parts ++ ")"

theorem mem_kept {identity p : String} {parts : List String} :
    p ∈ kept identity parts ↔ p ∈ parts ∧ p ≠ "" ∧ p ≠ identity := by
  simp only [kept, List.mem_filter, decide_eq_true_eq, and_assoc]

theorem kept_map_fst {α : Type} {identity : String} {pairs : List (String × α)}
    (h : ∀ p ∈ pairs, p.1 ≠ "") :
    kept identity (pairs.map Prod.fst) = (pairs.filter fun p => p.1 ≠ identity).map Prod.fst := by
  have hpresent : (pairs.map Prod.fst).filter (· ≠ "") = pairs.map Prod.fst := by
    refine List.filter_eq_self.2 fun s hs => decide_eq_true ?_
    obtain ⟨p, hp, rfl⟩ := List.mem_map.1 hs
    exact h p hp
  rw [kept, hpresent, List.filter_map]
  rfl

variable {absorbing identity joiner : String} {parts : List String}

theorem joinParts_cases (absorbing identity joiner : String) (parts : List String) :
    absorbing ∈ parts ∧ joinParts absorbing identity joiner parts = absorbing ∨
      kept identity parts = [] ∧ joinParts absorbing identity joiner parts = identity ∨
      kept identity parts = [joinParts absorbing identity joiner parts] ∨
      2 ≤ (kept identity parts).length ∧
        joinParts absorbing identity joiner parts = grouped joiner (kept identity parts) := by
  unfold joinParts
  by_cases ha : absorbing ∈ parts.filter (· ≠ "")
  · exact Or.inl ⟨(List.mem_filter.1 ha).1, if_pos ha⟩
  · refine Or.inr ?_
    simp only [if_neg ha]
    rcases hk : kept identity parts with _ | ⟨p, _ | ⟨q, ps⟩⟩
    · exact Or.inl ⟨rfl, by rw [kept] at hk; rw [hk]⟩
    · exact Or.inr (Or.inl (by rw [kept] at hk; rw [hk]))
    · exact Or.inr (Or.inr ⟨by simp, by rw [kept] at hk; rw [hk]; rfl⟩)

/-- What holds of the constants, of all parts and of any two or more of them in parentheses, holds
of the predicates joined. -/
theorem joinParts_induction {P : String → Prop} (habsorbing : P absorbing) (hidentity : P identity)
    (hgrouped : ∀ ps, (∀ p ∈ ps, P p) → P (grouped joiner ps)) (hparts : ∀ p ∈ parts, P p) :
    P (joinParts absorbing identity joiner parts) := by
  have hkept : ∀ p ∈ kept identity parts, P p := fun p hp => hparts p (mem_kept.1 hp).1
  rcases joinParts_cases absorbing identity joiner parts with ⟨-, h⟩ | ⟨-, h⟩ | h | ⟨-, h⟩
  · rwa [h]
  · rwa [h]
  · exact hkept _ (by rw [h]; exact List.mem_singleton_self _)
  · rw [h]
    exact hgrouped _ hkept

/-! ### Predicates that depend on the row -/

theorem isNontrivial_iff {s : String} :
    isNontrivial s = true ↔ s ≠ "" ∧ s ≠ "true" ∧ s ≠ "false" := by
  simp [isNontrivial, and_assoc]

theorem grouped_toList (joiner : String) (ps : List String) :
    (grouped joiner ps).toList =
      '(' :: ((Text.joinWith (" " ++ joiner ++ " ") ps).toList ++ [')']) := by
  simp [grouped]

/-- A text that does not begin like the constants depends on the row. -/
theorem isNontrivial_of_toList {s : String} {c : Char} {t : List Char} (h : s.toList = c :: t)
    (ht : c ≠ 't') (hf : c ≠ 'f') : isNontrivial s = true := by
  rw [isNontrivial_iff]
  refine ⟨?_, ?_, ?_⟩ <;> rintro rfl
  · simp at h
  · simp only [String.reduceToList, List.cons.injEq] at h
    exact ht h.1.symm
  · simp only [String.reduceToList, List.cons.injEq] at h
    exact hf h.1.symm

/-- The text begins in a way that the constants do not. -/
def beginsApart (s : String) : Bool :=
  match s.toList with
  | [] => false
  | c :: _ => c != 't' && c != 'f'

theorem beginsApart_append {s : String} (h : beginsApart s) (t : String) :
    beginsApart (s ++ t) := by
  rw [beginsApart] at h ⊢
  rw [String.toList_append]
  cases hs : s.toList with
  | nil =>
      rw [hs] at h
      cases h
  | cons c u =>
      rw [hs] at h
      exact h

theorem isNontrivial_of_beginsApart {s : String} (h : beginsApart s) : isNontrivial s = true := by
  rw [beginsApart] at h
  split at h
  · cases h
  · rename_i c t hs
    rw [Bool.and_eq_true, bne_iff_ne, bne_iff_ne] at h
    exact isNontrivial_of_toList hs h.1 h.2

theorem isNontrivial_grouped (joiner : String) (ps : List String) :
    isNontrivial (grouped joiner ps) = true :=
  isNontrivial_of_toList (grouped_toList joiner ps) (by decide) (by decide)

theorem conjoin_eq (parts : List String) : conjoin parts = joinParts "false" "true" "and" parts :=
  rfl

theorem isNontrivial_joinParts (ha : isNontrivial absorbing = false)
    (hi : isNontrivial identity = false) (hne : parts ≠ [])
    (h : ∀ p ∈ parts, isNontrivial p = true) :
    isNontrivial (joinParts absorbing identity joiner parts) = true := by
  have hmem : ∀ p ∈ parts, p ∈ kept identity parts := by
    intro p hp
    refine mem_kept.2 ⟨hp, (isNontrivial_iff.1 (h p hp)).1, ?_⟩
    rintro rfl
    rw [h _ hp] at hi
    cases hi
  have hkept : kept identity parts ≠ [] := by
    obtain ⟨p, hp⟩ := List.exists_mem_of_ne_nil parts hne
    exact List.ne_nil_of_mem (hmem p hp)
  rcases joinParts_cases absorbing identity joiner parts with ⟨hf, -⟩ | ⟨e, -⟩ | e | ⟨-, e⟩
  · rw [h _ hf] at ha
    cases ha
  · exact absurd e hkept
  · exact h _ (mem_kept.1 (e ▸ List.mem_singleton_self _)).1
  · rw [e]
    exact isNontrivial_grouped _ _

theorem isNontrivial_conjoin (hne : parts ≠ []) (h : ∀ p ∈ parts, isNontrivial p = true) :
    isNontrivial (conjoin parts) = true :=
  isNontrivial_joinParts (by decide) (by decide) hne h

theorem isNontrivial_disjoin (hne : parts ≠ []) (h : ∀ p ∈ parts, isNontrivial p = true) :
    isNontrivial (disjoin parts) = true :=
  isNontrivial_joinParts (by decide) (by decide) hne h

theorem conjoin_singleton {s : String} (h : isNontrivial s = true) : conjoin [s] = s := by
  obtain ⟨hne, htrue, hfalse⟩ := isNontrivial_iff.1 h
  simp [conjoin, joinParts, hne, htrue, Ne.symm hfalse]

theorem joinParts_of_mem (h : absorbing ∈ parts) (hne : absorbing ≠ "") :
    joinParts absorbing identity joiner parts = absorbing := by
  have hp : absorbing ∈ parts.filter (· ≠ "") := List.mem_filter.2 ⟨h, decide_eq_true hne⟩
  exact if_pos hp

/-- Missing predicates make no difference. -/
theorem joinParts_filter (absorbing identity joiner : String) (parts : List String) :
    joinParts absorbing identity joiner (parts.filter (· ≠ "")) =
      joinParts absorbing identity joiner parts := by
  simp only [joinParts, List.filter_filter, Bool.and_self]

theorem conjoin_eq_false (h : "false" ∈ parts) : conjoin parts = "false" :=
  joinParts_of_mem h (by decide)

/-- A part that is neither missing nor `true` stays in a conjunction that is not `false`. -/
theorem conjoin_of_mem {p : String} (hp : p ∈ parts) (hne : p ≠ "") (htrue : p ≠ "true") :
    conjoin parts = "false" ∨ conjoin parts = p ∨
      ∃ ps, 2 ≤ ps.length ∧ p ∈ ps ∧ ps ⊆ parts ∧ conjoin parts = grouped "and" ps := by
  have hk : p ∈ kept "true" parts := mem_kept.2 ⟨hp, hne, htrue⟩
  rw [conjoin_eq]
  rcases joinParts_cases "false" "true" "and" parts with ⟨-, e⟩ | ⟨e, -⟩ | e | ⟨hl, e⟩
  · exact Or.inl e
  · rw [e] at hk
    cases hk
  · rw [e] at hk
    exact Or.inr (Or.inl (List.mem_singleton.1 hk).symm)
  · exact Or.inr (Or.inr ⟨_, hl, hk, fun q hq => (mem_kept.1 hq).1, e⟩)

end PostSearch.Sql
