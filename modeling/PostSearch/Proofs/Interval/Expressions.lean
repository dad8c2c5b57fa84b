import Mathlib.Data.List.TakeWhile
import PostSearch.Interval.Basic

/-! # Spellings of intervals

What an expression says is a comparison with one value or a range of values (`Stated`); `Spells`
relates it to the texts it is written as, whatever values are. The readers of signs and ranges give
back what was written (`takeComparison_append`, `readRange?_eq_some`). -/

namespace PostSearch.Interval

variable {α : Type} {s l u : List Char}

/-- What an expression says, the values still being texts; a missing side is `*`. -/
inductive Stated where
  | comparison (sign : Comparison) (value : List Char)
  | range (lower upper : Option (List Char))

/-- Ways to write a comparison. -/
def Comparison.spellings : Comparison → List (List Char)
  | .equal => [[], ['=']]
  | .above => [['>']]
  | .atLeast => [['>', '=']]
  | .below => [['<']]
  | .atMost => [['<', '=']]

def sideText (side : Option (List Char)) : List Char :=
  side.getD ['*']

/-- The text is a way to write what is stated, if `IsValue` holds of its values. -/
inductive Spells (IsValue : List Char → Prop) : List Char → Stated → Prop
  | comparison {k : Comparison} {sign value : List Char} (hs : sign ∈ k.spellings)
      (hv : IsValue value) : Spells IsValue (sign ++ value) (.comparison k value)
  | range {lower upper : Option (List Char)} (hl : ∀ a ∈ lower, IsValue a)
      (hu : ∀ b ∈ upper, IsValue b) (hsome : lower.isSome ∨ upper.isSome) :
      Spells IsValue (sideText lower ++ '.' :: '.' :: sideText upper) (.range lower upper)

/-! ### Comparisons -/

theorem takeComparison_spec (s : List Char) :
    ∃ sign ∈ (takeComparison s).1.spellings, s = sign ++ (takeComparison s).2 := by
  unfold takeComparison
  split <;> simp [Comparison.spellings]

/-- A sign is read as far as it goes, so the value must not begin with one. -/
theorem takeComparison_append {k : Comparison} {sign value : List Char} (hs : sign ∈ k.spellings)
    (hv : ∀ c ∈ value.head?, c ∉ ['=', '>', '<']) : takeComparison (sign ++ value) = (k, value) := by
  have hvalue : ∀ c v, value = c :: v → c ≠ '=' ∧ c ≠ '>' ∧ c ≠ '<' := by
    rintro c v rfl
    simpa using hv c rfl
  cases k <;> simp only [Comparison.spellings, List.mem_cons, List.not_mem_nil, or_false] at hs
  case equal =>
    rcases hs with rfl | rfl
    · unfold takeComparison
      split <;> simp_all
    · rfl
  case atLeast | atMost => cases hs; rfl
  case above | below =>
    cases hs
    cases value with
    | nil => rfl
    | cons c v =>
        obtain ⟨hc, -⟩ := hvalue c v rfl
        simp [takeComparison, hc]

theorem dot_mem_takeComparison (h : '.' ∈ s) : '.' ∈ (takeComparison s).2 := by
  have hsigns : ∀ k : Comparison, ∀ sign ∈ k.spellings, '.' ∉ sign := by
    intro k
    cases k <;> decide
  obtain ⟨sign, hs, e⟩ := takeComparison_spec s
  rw [e] at h
  exact (List.mem_append.1 h).resolve_left (hsigns _ _ hs)

/-! ### Ranges -/

theorem splitRange?_eq_some :
    splitRange? s = some (l, u) ↔ s = l ++ '.' :: '.' :: u ∧ '.' ∉ l := by
  unfold splitRange?
  constructor
  · intro h
    split at h
    · rename_i upper hdrop
      cases h
      refine ⟨?_, fun hmem => ?_⟩
      · rw [← hdrop, List.takeWhile_append_dropWhile]
      · have := List.mem_takeWhile_imp hmem
        simp at this
    · cases h
  · rintro ⟨rfl, hl⟩
    have hkeep : ∀ c ∈ l, decide (c ≠ '.') = true := fun c hc =>
      decide_eq_true fun e => hl (e ▸ hc)
    rw [List.dropWhile_append_of_pos hkeep, List.takeWhile_append_of_pos hkeep]
    simp

theorem readRange?_eq_some {read? : List Char → Option α} {lower upper : Option α} :
    readRange? read? s = some (lower, upper) ↔
      ∃ l u, (s = l ++ '.' :: '.' :: u ∧ '.' ∉ l) ∧ readSide? read? l = some lower ∧
        readSide? read? u = some upper ∧ (lower.isSome ∨ upper.isSome) := by
  unfold readRange?
  simp only [Option.bind_eq_bind, Option.bind_eq_some_iff, Prod.exists, splitRange?_eq_some]
  constructor
  · rintro ⟨l, u, hs, lower', hl, upper', hu, h⟩
    split at h
    · cases h
    · rename_i hsome
      cases h
      refine ⟨l, u, hs, hl, hu, ?_⟩
      cases lower <;> cases upper <;> simp_all
  · rintro ⟨l, u, hs, hl, hu, hsome⟩
    refine ⟨l, u, hs, lower, hl, upper, hu, if_neg ?_⟩
    cases lower <;> cases upper <;> simp_all

/-! ### Bounds -/

/-- Some side of the interval is bounded. -/
def IsBounded (i : Interval α) : Prop :=
  i.lower.isSome ∨ i.upper.isSome

/-- The texts are two bounds, either of them empty but not both; `P` holds of the others. -/
def AreBounds (P : String → Prop) (args : List String) : Prop :=
  ∃ lower upper, args = [lower, upper] ∧ (lower ≠ "" ∨ upper ≠ "") ∧ (lower = "" ∨ P lower) ∧
    (upper = "" ∨ P upper)

end PostSearch.Interval
