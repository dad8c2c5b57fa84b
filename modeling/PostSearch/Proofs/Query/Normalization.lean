import Mathlib
import PostSearch.Proofs.Unicode.FinalSigma
import PostSearch.Query.Parse

/-! # Normalising twice

Lower case is taken of a composed text, and what has a composite in lower case only is left apart by
that. The next normalisation composes it, and no later one changes anything: normalising twice is
always enough, and once is enough exactly if the text is composed alike in both letter cases
(`normalize_normalize_iff`). -/

namespace PostSearch.Query

open Unicode

/-- Normalising a text once is enough exactly if its ordered letters are composed alike in both
letter cases, and normalising it twice always is. -/
theorem normalize_normalize_iff (s : List Char) :
    (normalize (normalize s) = normalize s ↔ ComposesAlike (order (decompose s))) ∧
      normalize (normalize (normalize s)) = normalize (normalize s) := by
  obtain ⟨u, hu, hlower⟩ := exists_lowercaseAfter [] (compatibilityForm s)
  obtain ⟨t, ht, rfl⟩ := exists_composed hu
  have hordered : IsOrdered t := isOrdered_congr ht (isOrdered_order _)
  have hletters : ∀ c ∈ t, IsDecomposed c :=
    forall_isDecomposed_congr ht fun _ => isDecomposed_of_mem_order
  have hlowered : ∀ c ∈ t.map lower, IsDecomposed c := by
    intro c hc
    obtain ⟨d, hd, rfl⟩ := List.mem_map.1 hc
    exact (hletters d hd).lowerCase
  have hfirst : normalize s = (compose t).flatMap lowercaseChar := hlower
  have hcase : lowercase (compose (t.map lower)) = compose (t.map lower) :=
    lowercaseAfter_eq_self [] (lowercaseChar_of_mem_compose hletters)
  have hsecond : normalize (normalize s) = compose (t.map lower) := by
    rw [hfirst, normalize, compatibilityForm_lowercase_compose hordered hletters, hcase]
  have hthird : normalize (compose (t.map lower)) = compose (t.map lower) := by
    rw [normalize, compatibilityForm_compose (isOrdered_map_lower.2 hordered) hlowered, hcase]
  constructor
  · rw [hsecond, hfirst, eq_comm, lowercase_compose_iff hordered hletters, composesAlike_congr ht]
  · rw [hsecond, hthird]

/-- An `H` with a line below has no composite, and an `h` with a line below has one. -/
theorem normalize_capital_lineBelow :
    normalize (normalize ['H', Char.ofNat 0x0331]) ≠ normalize ['H', Char.ofNat 0x0331] := by
  decide +kernel

end PostSearch.Query
