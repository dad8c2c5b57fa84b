import Mathlib
import PostSearch.Proofs.Unicode.SearchTree
import PostSearch.Unicode.Lowercase
import PostSearch.Unicode.Normalization

/-! # What the tables say of each other

The tables of decompositions, composites, combining classes and lower-case letters, searched as
trees, and what every row of one table says about the others. -/

namespace PostSearch.Unicode

variable {n m first second : Nat}

/-! ### The trees -/

/-- All decompositions that are no runs. -/
def expansions : List Expansion :=
  letterExpansions ++ symbolExpansions ++ squareExpansions ++ ideographExpansions ++
    formExpansions ++ supplementExpansions

def runTree : BinaryTree CodeRun := tree decompositionRuns

def expansionTree : BinaryTree Expansion := tree expansions

def lowercaseTree : BinaryTree CodeRun := tree lowercaseRuns

def classTree : BinaryTree ClassRange := tree combiningRanges

def compositeTree : BinaryTree Composite := tree composites

/-- What a code point stands for by the tables. -/
def listed? (n : Nat) : Option (List Nat) :=
  (((search CodeRun.first CodeRun.last n runTree).bind (CodeRun.image? n)).map ([·])).or
    ((search Expansion.code Expansion.code n expansionTree).map Expansion.image)

/-- The lower-case letter that the table has for a code point. -/
def lowerCode? (n : Nat) : Option Nat :=
  (search CodeRun.first CodeRun.last n lowercaseTree).bind (CodeRun.image? n)

def classOf (n : Nat) : Nat :=
  ((search ClassRange.first ClassRange.last n classTree).map ClassRange.cls).getD 0

def compositeOf? (first second : Nat) : Option Nat :=
  (search Composite.number Composite.number (pairNumber first second) compositeTree).map
    Composite.code

set_option maxRecDepth 100000 in
theorem tables_ascend :
    IsAscending Expansion.code Expansion.code expansions ∧
      IsAscending CodeRun.first CodeRun.last decompositionRuns ∧
      IsAscending CodeRun.first CodeRun.last lowercaseRuns ∧
      IsAscending ClassRange.first ClassRange.last combiningRanges ∧
      IsAscending Composite.number Composite.number composites := by
  decide +kernel

theorem isAscending_expansions : IsAscending Expansion.code Expansion.code expansions :=
  tables_ascend.1

theorem isAscending_runs : IsAscending CodeRun.first CodeRun.last decompositionRuns :=
  tables_ascend.2.1

theorem isAscending_lowercaseRuns : IsAscending CodeRun.first CodeRun.last lowercaseRuns :=
  tables_ascend.2.2.1

theorem isAscending_classes : IsAscending ClassRange.first ClassRange.last combiningRanges :=
  tables_ascend.2.2.2.1

theorem isAscending_composites : IsAscending Composite.number Composite.number composites :=
  tables_ascend.2.2.2.2

theorem search_runTree :
    (search CodeRun.first CodeRun.last n runTree).bind (CodeRun.image? n) =
      imageInRuns n decompositionRuns := by
  rw [imageInRuns_eq isAscending_runs, ← search_tree isAscending_runs, runTree]

theorem search_expansionTree :
    search Expansion.code Expansion.code n expansionTree =
      rowOf? Expansion.code Expansion.code n expansions :=
  search_tree isAscending_expansions

theorem listed?_eq :
    listed? n = ((imageInRuns n decompositionRuns).map ([·])).or
      ((rowOf? Expansion.code Expansion.code n expansions).map Expansion.image) := by
  unfold listed?
  rw [search_runTree, search_expansionTree]

theorem decomposition?_eq : decomposition? n = (hangulLetters? n).or (listed? n) := by
  have h := isAscending_expansions
  simp only [expansions, IsAscending, List.isChain_append] at h
  obtain ⟨⟨⟨⟨⟨hletters, hsymbols, -⟩, hsquares, -⟩, hideographs, -⟩, hforms, -⟩, hsupplement, -⟩ :=
    h
  rw [listed?_eq, decomposition?, expansionOf?_eq hletters, expansionOf?_eq hsymbols,
    expansionOf?_eq hsquares, expansionOf?_eq hideographs, expansionOf?_eq hforms,
    expansionOf?_eq hsupplement]
  simp only [expansions, rowOf?, List.find?_append, Option.orElse_eq_orElse, Option.orElse_eq_or,
    Option.map_or, Option.or_assoc]

theorem imageInRuns_lowercaseRuns : imageInRuns n lowercaseRuns = lowerCode? n := by
  rw [imageInRuns_eq isAscending_lowercaseRuns, ← search_tree isAscending_lowercaseRuns,
    lowerCode?, lowercaseTree]

theorem classIn_combiningRanges : classIn n combiningRanges = classOf n := by
  rw [classIn_eq isAscending_classes, ← search_tree isAscending_classes, classOf, classTree]

theorem compositeIn_composites (h : first < 2 ^ 21) :
    compositeIn first second composites = compositeOf? first second := by
  have hrows : ∀ r ∈ composites, r.first < 2 ^ 21 := by decide +kernel
  rw [compositeIn_eq isAscending_composites h hrows, ← search_tree isAscending_composites,
    compositeOf?, compositeTree]

/-! ### Runs row by row -/

/-- Code points and images of a table of runs. -/
def runPairs (table : List CodeRun) : List (Nat × Nat) :=
  table.flatMap fun r => (List.range ((r.last - r.first) / r.step + 1)).map fun k =>
    (r.first + k * r.step, r.image + k * r.step)

theorem mem_runPairs {table : List CodeRun} (h : imageInRuns n table = some m) :
    (n, m) ∈ runPairs table := by
  induction table with
  | nil => cases h
  | cons r rs ih =>
      rw [runPairs, List.flatMap_cons, List.mem_append]
      unfold imageInRuns at h
      split at h
      · cases h
      · split at h
        · rename_i hfirst hlast
          cases h
          refine Or.inl (List.mem_map.2 ⟨(n - r.first) / r.step, ?_, ?_⟩)
          · have := Nat.div_le_div_right (c := r.step) (Nat.sub_le_sub_right hlast.1 r.first)
            exact List.mem_range.2 (by omega)
          · rw [Nat.div_mul_cancel (Nat.dvd_of_mod_eq_zero hlast.2),
              Nat.add_sub_cancel' (Nat.le_of_not_lt hfirst)]
        · exact Or.inr (ih h)

/-! ### What the rows say -/

/-- The code point stands for itself. -/
def isLetter (n : Nat) : Bool :=
  (hangulLetters? n).isNone && (listed? n).isNone

theorem isLetter_iff : isLetter n = true ↔ decomposition? n = none := by
  rw [isLetter, decomposition?_eq, Bool.and_eq_true, Option.isNone_iff_eq_none,
    Option.isNone_iff_eq_none, Option.or_eq_none_iff]

/-- Letters of a code point by the tables. -/
def letters (n : Nat) : List Nat :=
  (listed? n).getD [n]

/-- Lower case of a code point other than the dotted capital. -/
def lowerCode (n : Nat) : Nat :=
  (lowerCode? n).getD n

/-- Hangul, and blocks of other scripts without letter case where some vowel signs are no marks. -/
def IsCaseless (n : Nat) : Prop :=
  (leadBase ≤ n ∧ n < leadBase + 0x100) ∨
    (hangulBase ≤ n ∧ n < hangulBase + leadCount * vowelCount * tailCount) ∨
    (0x0900 ≤ n ∧ n < 0x10A0) ∨ (0x1B00 ≤ n ∧ n < 0x1C00) ∨
    (0x11000 ≤ n ∧ n < 0x118A0) ∨ (0x11900 ≤ n ∧ n < 0x12000)

instance : DecidablePred IsCaseless :=
  fun _ => inferInstanceAs (Decidable (_ ∨ _))

/-- What the other tables say of a composite: it has the letters of its first character and its
second character, in both letter cases, and the second character has none. -/
def rowAgrees (r : Composite) : Bool :=
  letters r.code == letters r.first ++ [r.second] &&
    (Nat.beq r.code 0x0130 ||
      compositeOf? (lowerCode r.first) r.second == some (lowerCode r.code)) &&
    (!Nat.beq (classOf r.second) 0 || decide (IsCaseless r.second))

/-- What the other tables say of a letter with a lower case and its lower case. -/
def pairAgrees (p : Nat × Nat) : Bool :=
  (!isLetter p.1 || isLetter p.2) && Nat.beq (classOf p.1) 0 && Nat.beq (classOf p.2) 0 &&
    (lowerCode? p.2).isNone && decide p.2.isValidChar && !decide (IsCaseless p.1) &&
    !decide (IsCaseless p.2)

theorem all_rowAgrees : composites.all rowAgrees = true := by
  decide +kernel

theorem all_pairAgrees : (runPairs lowercaseRuns).all pairAgrees = true := by
  decide +kernel

/-- All checks of letters are one: the kernel grows the trees of decompositions once. -/
theorem all_isLetter :
    ((runPairs decompositionRuns).all (fun p => isLetter p.2) &&
      expansions.all (fun e => e.image.all isLetter) &&
      (List.range 0x100).all (fun k => isLetter (leadBase + k)) && !isLetter 0x0130) = true := by
  decide +kernel

theorem isLetter_listed {image : List Nat} (h : listed? n = some image) :
    ∀ x ∈ image, isLetter x = true := by
  have hletters := all_isLetter
  simp only [Bool.and_eq_true] at hletters
  obtain ⟨⟨⟨hruns, hexpansions⟩, -⟩, -⟩ := hletters
  rw [listed?_eq, Option.or_eq_some_iff] at h
  rcases h with h | ⟨-, h⟩
  · obtain ⟨m, hm, rfl⟩ := Option.map_eq_some_iff.1 h
    intro x hx
    rw [List.mem_singleton.1 hx]
    exact List.all_eq_true.1 hruns _ (mem_runPairs hm)
  · obtain ⟨e, he, rfl⟩ := Option.map_eq_some_iff.1 h
    exact List.all_eq_true.1 (List.all_eq_true.1 hexpansions e (List.mem_of_find?_eq_some he))

theorem isLetter_jamo (hfirst : leadBase ≤ n) (hlast : n < leadBase + 0x100) :
    isLetter n = true := by
  have hletters := all_isLetter
  simp only [Bool.and_eq_true] at hletters
  obtain ⟨⟨-, hblock⟩, -⟩ := hletters
  have h := List.all_eq_true.1 hblock (n - leadBase) (List.mem_range.2 (by omega))
  rwa [Nat.add_sub_cancel' hfirst] at h

theorem isLetter_dottedCapital : isLetter 0x0130 = false := by
  have hletters := all_isLetter
  rw [Bool.and_eq_true, Bool.not_eq_true'] at hletters
  exact hletters.2

theorem composites_agree {r : Composite} (hr : r ∈ composites) :
    letters r.code = letters r.first ++ [r.second] ∧
      (r.code = 0x0130 ∨ compositeOf? (lowerCode r.first) r.second = some (lowerCode r.code)) ∧
        (classOf r.second ≠ 0 ∨ IsCaseless r.second) := by
  have hrow := List.all_eq_true.1 all_rowAgrees r hr
  simp only [rowAgrees, Bool.and_eq_true, Bool.or_eq_true, beq_iff_eq, Nat.beq_eq,
    Bool.not_eq_true', ← Bool.not_eq_true, decide_eq_true_eq] at hrow
  exact ⟨hrow.1.1, hrow.1.2, hrow.2⟩

theorem lowerCode?_some (h : lowerCode? n = some m) :
    (isLetter n = true → isLetter m = true) ∧ (classOf n = 0 ∧ classOf m = 0) ∧
      lowerCode? m = none ∧ m.isValidChar ∧ ¬ IsCaseless n ∧ ¬ IsCaseless m := by
  rw [← imageInRuns_lowercaseRuns] at h
  have hpair := List.all_eq_true.1 all_pairAgrees _ (mem_runPairs h)
  simp only [pairAgrees, Bool.and_eq_true, Bool.or_eq_true, Nat.beq_eq, Bool.not_eq_true',
    Option.isNone_iff_eq_none, decide_eq_true_eq, decide_eq_false_iff_not] at hpair
  obtain ⟨⟨⟨⟨⟨⟨hletter, hn⟩, hm⟩, hnone⟩, hvalid⟩, hcaseless⟩, hcaseless'⟩ := hpair
  refine ⟨fun hletters => hletter.resolve_left ?_, ⟨hn, hm⟩, hnone, hvalid, hcaseless, hcaseless'⟩
  rw [hletters]
  decide

end PostSearch.Unicode
