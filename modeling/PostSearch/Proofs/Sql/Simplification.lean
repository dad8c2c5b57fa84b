import PostSearch.Proofs.Sql.Formula
import PostSearch.Proofs.Sql.Solid

/-! # Simplification keeps the meaning

A predicate is put together of simple conditions and constants by `conjoin`, `disjoin` and `negate`,
which simplify as they go. What a text means is kept by each of them (`means_joinParts`,
`means_negate`), so it is what the tree means.

Main statement: the text of a predicate is a constant only if the predicate always has this value,
and else it is read as a formula without constants that has the value of the predicate
(`text_simplifies`). -/

namespace PostSearch.Sql

/-! ### Predicates -/

/-- A simple condition: words, none of them a connective or a constant, without parentheses. -/
structure Simple where
  text : String
  ne_empty : text ≠ ""
  isPlain : ∀ w ∈ Text.splitAt ' ' text.toList, IsPlain w ∧ w ∉ ["true".toList, "false".toList]

mutual

/-- A predicate as it is put together. -/
inductive Predicate where
  | simple (a : Simple)
  | const (b : Bool)
  | all (parts : Predicates)
  | any (parts : Predicates)
  | not (p : Predicate)

/-- Predicates that are taken together, some of which are missing. -/
inductive Predicates where
  | nil
  | missing (rest : Predicates)
  | cons (p : Predicate) (rest : Predicates)

end

mutual

def Predicate.text : Predicate → String
  | .simple a => a.text
  | .const b => constText b
  | .all parts => conjoin parts.texts
  | .any parts => disjoin parts.texts
  | .not p => negate p.text

/-- The texts of predicates, empty for missing ones. -/
def Predicates.texts : Predicates → List String
  | .nil => []
  | .missing rest => "" :: rest.texts
  | .cons p rest => p.text :: rest.texts

end

mutual

/-- Value of the predicate where the values of simple conditions are known. -/
def Predicate.eval (v : String → Bool) : Predicate → Bool
  | .simple a => v a.text
  | .const b => b
  | .all parts => (parts.evals v).all id
  | .any parts => (parts.evals v).any id
  | .not p => !p.eval v

/-- Values of the predicates that are not missing. -/
def Predicates.evals (v : String → Bool) : Predicates → List Bool
  | .nil => []
  | .missing rest => rest.evals v
  | .cons p rest => p.eval v :: rest.evals v

end

def Predicates.present : Predicates → List Predicate
  | .nil => []
  | .missing rest => rest.present
  | .cons p rest => p :: rest.present

theorem Predicates.evals_eq (v : String → Bool) (ps : Predicates) :
    ps.evals v = ps.present.map (Predicate.eval v) := by
  fun_induction Predicates.present ps with
  | case1 => rfl
  | case2 rest ih => rw [evals, ih]
  | case3 p rest ih => rw [evals, ih, List.map_cons]

theorem Predicates.filter_texts (ps : Predicates) (h : ∀ p ∈ ps.present, p.text ≠ "") :
    ps.texts.filter (· ≠ "") = ps.present.map Predicate.text := by
  fun_induction Predicates.present ps with
  | case1 => rfl
  | case2 rest ih => rw [texts, List.filter_cons_of_neg (by simp), ih h]
  | case3 p rest ih =>
      obtain ⟨hp, hrest⟩ := List.forall_mem_cons.1 h
      rw [texts, List.filter_cons_of_pos (by simpa using hp), ih hrest, List.map_cons]

/-! ### What texts mean -/

/-- A value that depends on those of simple conditions. -/
abbrev Meaning := (String → Bool) → Bool

/-- The text is a constant that is always the value, or it is read as an operand without constants
that has the value. -/
def Means (s : String) (value : Meaning) : Prop :=
  (∃ b, s = constText b ∧ ∀ v, value v = b) ∨
    (isNontrivial s = true ∧
      ∃ φ, ReadsOperand s.toList φ ∧ φ.isOpen = true ∧ ∀ v, φ.eval v = value v)

namespace Means

variable {s : String} {value : Meaning}

theorem ne_empty (h : Means s value) : s ≠ "" := by
  rcases h with ⟨b, rfl, -⟩ | ⟨hs, -⟩
  · cases b <;> decide +kernel
  · exact (isNontrivial_iff.1 hs).1

theorem of_constText {b : Bool} (h : Means (constText b) value) (v : String → Bool) :
    value v = b := by
  rcases h with ⟨c, hc, hvalue⟩ | ⟨hs, -⟩
  · rw [hvalue, constText_inj.1 hc]
  · rw [isNontrivial_constText] at hs
    cases hs

/-- A text that is no constant is read as an operand. -/
theorem exists_operand (h : Means s value) (hs : ∀ b, s ≠ constText b) :
    ∃ φ, ReadsOperand s.toList φ ∧ φ.isOpen = true ∧ ∀ v, φ.eval v = value v := by
  rcases h with ⟨b, rfl, -⟩ | ⟨-, h⟩
  · exact absurd rfl (hs b)
  · exact h

end Means

/-! ### Simplification keeps what texts mean -/

theorem joinedValue_eq_iff {b : Bool} {values : List Bool} :
    joinedValue b values = b ↔ b ∈ values := by
  cases b <;> simp [joinedValue]

/-- Values that do not decide make no difference. -/
theorem joinedValue_congr {b : Bool} {xs ys : List Bool} (h : b ∈ xs ↔ b ∈ ys) :
    joinedValue b xs = joinedValue b ys := by
  rw [← joinedValue_eq_iff, ← joinedValue_eq_iff] at h
  revert h
  cases b <;> cases joinedValue _ xs <;> cases joinedValue _ ys <;> decide

theorem means_grouped (b : Bool) {parts : List (String × Meaning)} (hne : parts ≠ [])
    (h : ∀ p ∈ parts, ∃ φ, ReadsOperand p.1.toList φ ∧ φ.isOpen = true ∧ ∀ v, φ.eval v = p.2 v) :
    Means (grouped (joiner b) (parts.map Prod.fst)) fun v =>
      joinedValue b (parts.map fun p => p.2 v) := by
  choose! formula hformula using h
  obtain ⟨p, rest, rfl⟩ := List.exists_cons_of_ne_nil hne
  let operands := rest.map fun q => (q.1, formula q)
  have hread : ∀ q ∈ (p.1, formula p) :: operands, ReadsOperand q.1.toList q.2 := by
    rw [List.forall_mem_cons, List.forall_mem_map]
    refine ⟨(hformula p List.mem_cons_self).1, ?_⟩
    intro q hq
    exact (hformula q (List.mem_cons_of_mem p hq)).1
  have hfst : ((p.1, formula p) :: operands).map Prod.fst = (p :: rest).map Prod.fst := by
    simp [operands]
  have hsnd : operands.map Prod.snd = rest.map formula := by
    simp [operands]
  have hgrouped := readsOperand_grouped b (p.1, formula p) operands hread
  rw [hfst, hsnd] at hgrouped
  refine Or.inr ⟨isNontrivial_grouped _ _, _, hgrouped, ?_, ?_⟩
  · apply Formula.isOpen_foldl_join
    show ∀ ψ ∈ (p :: rest).map formula, ψ.isOpen = true
    rw [List.forall_mem_map]
    intro q hq
    exact (hformula q hq).2.1
  · intro v
    have hvalues : ((p :: rest).map formula).map (Formula.eval v) =
        (p :: rest).map fun q => q.2 v := by
      rw [List.map_map]
      exact List.map_congr_left fun q hq => (hformula q hq).2.2 v
    rw [Formula.eval_foldl_join]
    exact congrArg (joinedValue b) hvalues

/-- Constants that do not decide may be left out. -/
theorem joinedValue_filter (b : Bool) {parts : List (String × Meaning)}
    (h : ∀ p ∈ parts, Means p.1 p.2) (v : String → Bool) :
    joinedValue b ((parts.filter fun p => p.1 ≠ constText !b).map fun p => p.2 v) =
      joinedValue b (parts.map fun p => p.2 v) := by
  apply joinedValue_congr
  simp only [List.mem_map, List.mem_filter, decide_eq_true_eq]
  refine exists_congr fun p => and_congr_left fun hp => ?_
  refine and_iff_left_of_imp fun hmem hconst => ?_
  have hnot := Means.of_constText (hconst ▸ h p hmem) v
  rw [hp] at hnot
  cases b <;> cases hnot

theorem means_joinParts (b : Bool) {parts : List (String × Meaning)}
    (h : ∀ p ∈ parts, Means p.1 p.2) :
    Means (joinParts (constText b) (constText !b) (joiner b) (parts.map Prod.fst)) fun v =>
      joinedValue b (parts.map fun p => p.2 v) := by
  have hne : ∀ p ∈ parts, p.1 ≠ "" := fun p hp => (h p hp).ne_empty
  by_cases hmem : constText b ∈ parts.map Prod.fst
  · obtain ⟨p, hp, hconst⟩ := List.mem_map.1 hmem
    refine Or.inl ⟨b, joinParts_of_mem hmem (hconst ▸ hne p hp), ?_⟩
    intro v
    rw [joinedValue_eq_iff]
    exact List.mem_map.2 ⟨p, hp, Means.of_constText (hconst ▸ h p hp) v⟩
  · have hmeans : ∀ p ∈ parts.filter (fun p => p.1 ≠ constText !b), Means p.1 p.2 :=
      fun p hp => h p (List.mem_filter.1 hp).1
    have hvalue := joinedValue_filter b h
    have hresult := joinParts_cases (constText b) (constText !b) (joiner b) (parts.map Prod.fst)
    rw [kept_map_fst hne] at hresult
    simp only [← hvalue]
    rcases hresult with ⟨habsorbing, -⟩ | ⟨hnil, e⟩ | hone | ⟨hlength, e⟩
    · exact absurd habsorbing hmem
    · rw [e, List.map_eq_nil_iff.1 hnil]
      refine Or.inl ⟨!b, rfl, ?_⟩
      intro v
      cases b <;> rfl
    · obtain ⟨p, hp, hfst⟩ := List.map_eq_singleton_iff.1 hone
      have hself : ∀ v, joinedValue b [p.2 v] = p.2 v := by
        intro v
        cases b <;> simp [joinedValue]
      simp only [← hfst, hp, List.map_singleton, hself]
      apply hmeans p
      rw [hp]
      exact List.mem_singleton_self p
    · rw [e]
      apply means_grouped
      · intro hnil
        rw [hnil] at hlength
        simp at hlength
      · intro p hp
        apply (hmeans p hp).exists_operand
        intro c hc
        obtain ⟨hparts, hother⟩ := List.mem_filter.1 hp
        by_cases hcb : c = b
        · exact hmem (List.mem_map.2 ⟨p, hparts, hcb ▸ hc⟩)
        · have hnot : c = !b := by cases b <;> cases c <;> simp_all
          exact of_decide_eq_true hother (hnot ▸ hc)

theorem means_negate {s : String} {value : Meaning} (h : Means s value) :
    Means (negate s) fun v => !value v := by
  rcases h with ⟨b, rfl, hvalue⟩ | ⟨hs, φ, hφ, hopen, hvalue⟩
  · refine Or.inl ⟨!b, ?_, ?_⟩
    · cases b <;> decide +kernel
    · intro v
      simp only [hvalue]
  · refine Or.inr ⟨isNontrivial_negate hs, φ.not, ?_, hopen, ?_⟩
    · obtain ⟨-, htrue, hfalse⟩ := isNontrivial_iff.1 hs
      rw [negate, if_neg htrue, if_neg hfalse]
      split
      · have hgroup := (hφ.readsPredicate.group).not
        have htext : ("not (" ++ s ++ ")").toList =
            "not ".toList ++ '(' :: (s.toList ++ [')']) := by simp
        rw [htext]
        exact hgroup
      · rw [String.toList_append]
        exact hφ.not
    · intro v
      rw [Formula.eval, hvalue]

/-! ### The text of a predicate -/

theorem Simple.means (a : Simple) : Means a.text fun v => v a.text := by
  have hplain : ∀ w ∈ Text.splitAt ' ' a.text.toList, IsPlain w := fun w hw => (a.isPlain w hw).1
  have hword : ∀ w ∈ ["true".toList, "false".toList], Text.splitAt ' ' a.text.toList ≠ [w] := by
    intro w hw e
    exact (a.isPlain w (e ▸ List.mem_singleton_self w)).2 hw
  have hformula : wordsFormula (Text.splitAt ' ' a.text.toList) = .atom a.text := by
    unfold wordsFormula
    rw [if_neg (hword _ (by simp)), if_neg (hword _ (by simp)), Text.intercalate_splitAt,
      String.ofList_toList]
  have hsplit : ∀ w ∈ ["true", "false"], Text.splitAt ' ' w.toList = [w.toList] := by decide +kernel
  have hnontrivial : isNontrivial a.text = true := by
    rw [isNontrivial_iff]
    refine ⟨a.ne_empty, ?_, ?_⟩
    · intro e
      apply hword "true".toList (by simp)
      rw [e]
      exact hsplit "true" (by simp)
    · intro e
      apply hword "false".toList (by simp)
      rw [e]
      exact hsplit "false" (by simp)
  refine Or.inr ⟨hnontrivial, _, readsOperand_words hplain, ?_, ?_⟩
  · rw [hformula]
    rfl
  · intro v
    rw [hformula]
    rfl

/-- What predicates that are taken together mean, missing ones being left out. -/
theorem means_texts (b : Bool) (ps : Predicates)
    (h : ∀ p ∈ ps.present.map fun p => (p.text, fun v => p.eval v), Means p.1 p.2) :
    Means (joinParts (constText b) (constText !b) (joiner b) ps.texts) fun v =>
      joinedValue b (ps.evals v) := by
  have hne : ∀ p ∈ ps.present, p.text ≠ "" := fun p hp =>
    (h _ (List.mem_map_of_mem hp)).ne_empty
  have hjoined := means_joinParts b h
  simp only [List.map_map] at hjoined
  rw [← joinParts_filter, ps.filter_texts hne]
  simp only [ps.evals_eq]
  exact hjoined

mutual

theorem Predicate.means : ∀ p : Predicate, Means p.text fun v => p.eval v
  | .simple a => a.means
  | .const b => Or.inl ⟨b, rfl, fun _ => rfl⟩
  | .all parts => means_texts false parts parts.means
  | .any parts => means_texts true parts parts.means
  | .not p => means_negate p.means

theorem Predicates.means : ∀ ps : Predicates,
    ∀ p ∈ ps.present.map fun p => (p.text, fun v => p.eval v), Means p.1 p.2
  | .nil => nofun
  | .missing rest => rest.means
  | .cons p rest => List.forall_mem_cons.2 ⟨p.means, rest.means⟩

end

/-- The text of a predicate is not empty. If it is a constant, the predicate has this value whatever
holds of its simple conditions. Else the text is read as a formula without constants, and it has the
value of the predicate whatever holds of them. -/
theorem text_simplifies (p : Predicate) :
    p.text ≠ "" ∧
    (∀ b, p.text = constText b → ∀ v, p.eval v = b) ∧
    ((∀ b, p.text ≠ constText b) →
      ∃ φ, read? p.text = some φ ∧ φ.isOpen = true ∧ ∀ v, φ.eval v = p.eval v) := by
  have hmeans := p.means
  refine ⟨hmeans.ne_empty, ?_, ?_⟩
  · intro b hb v
    exact Means.of_constText (hb ▸ hmeans) v
  · intro hconst
    obtain ⟨φ, hφ, hopen, hvalue⟩ := hmeans.exists_operand hconst
    exact ⟨φ, hφ.readsPredicate.read?, hopen, hvalue⟩

/-- Neither of two conditions, with a missing one and a constant beside them. -/
theorem text_simplifies_neither : ∃ a b : Simple, ∃ φ,
    (Predicate.not (.any (.cons (.simple a) (.missing (.cons (.const false)
      (.cons (.simple b) .nil)))))).text = "not ((a = 1 or b))" ∧
    read? "not ((a = 1 or b))" = some φ ∧ ∀ v, φ.eval v = !(v "a = 1" || v "b") := by
  let a : Simple := ⟨"a = 1", by decide, by decide +kernel⟩
  let b : Simple := ⟨"b", by decide, by decide +kernel⟩
  obtain ⟨p, hp⟩ : ∃ p : Predicate, p = .not (.any (.cons (.simple a) (.missing
    (.cons (.const false) (.cons (.simple b) .nil))))) := ⟨_, rfl⟩
  have htext : p.text = "not ((a = 1 or b))" := by
    rw [hp]
    decide +kernel
  have hconst : ∀ c, p.text ≠ constText c := by
    rw [htext]
    intro c
    cases c <;> decide
  obtain ⟨-, -, hread⟩ := text_simplifies p
  obtain ⟨φ, hφ, -, hvalue⟩ := hread hconst
  refine ⟨a, b, φ, hp ▸ htext, htext ▸ hφ, ?_⟩
  intro v
  rw [hvalue, hp]
  simp [a, b, Predicate.eval, Predicates.evals]

end PostSearch.Sql
