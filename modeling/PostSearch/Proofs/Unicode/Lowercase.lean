import Mathlib
import PostSearch.Proofs.Unicode.Ascii

/-! # Lower case without capitals

The lower case of a text has no capital letters of ASCII (`isUpper_of_mem_lowercase`). -/

namespace PostSearch.Unicode

variable {c d : Char} {s before : List Char}

theorem imageInRuns_some {c n : Nat} {table : List CodeRun} (h : imageInRuns c table = some n) :
    ∃ r ∈ table, (r.first ≤ c ∧ c ≤ r.last) ∧ n = r.image + (c - r.first) := by
  induction table with
  | nil => cases h
  | cons r rs ih =>
      unfold imageInRuns at h
      split at h
      · cases h
      · split at h
        · cases h
          exact ⟨r, List.mem_cons_self, ⟨by omega, by omega⟩, rfl⟩
        · obtain ⟨r', hr', hrange⟩ := ih h
          exact ⟨r', List.mem_cons_of_mem _ hr', hrange⟩

theorem isUpper_iff : c.isUpper = true ↔ 0x41 ≤ c.toNat ∧ c.toNat ≤ 0x5A := by
  simp [Char.isUpper, UInt32.le_iff_toNat_le, ← Char.toNat_val]

theorem isUpper_ofNat {n : Nat} (h : 0x5A < n) : (Char.ofNat n).isUpper = false := by
  rw [Bool.eq_false_iff, ne_eq, isUpper_iff, Char.toNat_ofNat]
  split <;> omega

theorem isUpper_of_mem_lowercaseChar (h : d ∈ lowercaseChar c) : d.isUpper = false := by
  by_cases hc : c.toNat < 128
  · have hascii : ∀ c : Char, c.toNat < 128 → c.toLower.isUpper = false :=
      forall_ascii (by decide)
    have hlower := lowercaseChar_ascii _ hc
    rw [Char.ofNat_toNat] at hlower
    rw [hlower] at h
    exact List.mem_singleton.1 h ▸ hascii c hc
  · have himages : ∀ r ∈ lowercaseRuns, 0x5A < r.image := by decide +kernel
    unfold lowercaseChar at h
    split at h
    · simp only [List.mem_cons, List.not_mem_nil, or_false] at h
      rcases h with rfl | rfl <;> decide
    · split at h
      · rename_i n hn
        obtain ⟨r, hr, -, rfl⟩ := imageInRuns_some hn
        have := himages r hr
        rw [List.mem_singleton.1 h]
        exact isUpper_ofNat (by omega)
      · rw [List.mem_singleton.1 h, Bool.eq_false_iff, ne_eq, isUpper_iff]
        omega

theorem isUpper_of_mem_lowercaseAfter (h : c ∈ lowercaseAfter before s) : c.isUpper = false := by
  induction s generalizing before with
  | nil => cases h
  | cons d s ih =>
      rcases List.mem_append.1 h with h | h
      · split at h
        · rw [List.mem_singleton.1 h]
          decide
        · exact isUpper_of_mem_lowercaseChar h
      · exact ih h

theorem isUpper_of_mem_lowercase (h : c ∈ lowercase s) : c.isUpper = false :=
  isUpper_of_mem_lowercaseAfter h

end PostSearch.Unicode
