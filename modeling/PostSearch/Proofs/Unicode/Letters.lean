import Mathlib
import PostSearch.Proofs.Unicode.Lookups

/-! # Composites and their letters

A composite decomposes into the letters of its first character and its second character
(`decomposeChar_composite`), and composing keeps to the letter case: the lower case of a composite
is the composite of the lower case (`lower_composite`). The one exception is the dotted capital
`İ`, whose lower case is not composed. -/

namespace PostSearch.Unicode

variable {c d f s p : Char} {n first second : Nat} {image : List Nat}

/-! ### Hangul -/

section Hangul

variable {l v t : Nat}

def syllable (l v t : Nat) : Nat :=
  hangulBase + (l * vowelCount + v) * tailCount + t

theorem hangulLetters?_syllable (hl : l < leadCount) (hv : v < vowelCount) (ht : t < tailCount) :
    hangulLetters? (syllable l v t) =
      some ((leadBase + l) :: (vowelBase + v) :: if t = 0 then [] else [tailBase + t]) := by
  have hrange : hangulBase ≤ syllable l v t ∧
      syllable l v t < hangulBase + leadCount * vowelCount * tailCount := by
    unfold syllable leadCount vowelCount tailCount at *
    omega
  have hnumber : syllable l v t - hangulBase = (l * vowelCount + v) * tailCount + t := by
    unfold syllable
    omega
  have hlead : ((l * vowelCount + v) * tailCount + t) / (vowelCount * tailCount) = l := by
    unfold vowelCount tailCount at *
    omega
  have hvowel :
      ((l * vowelCount + v) * tailCount + t) % (vowelCount * tailCount) / tailCount = v := by
    unfold vowelCount tailCount at *
    omega
  have htail : ((l * vowelCount + v) * tailCount + t) % tailCount = t := by
    unfold tailCount at *
    omega
  unfold hangulLetters?
  rw [if_pos hrange, hnumber]
  dsimp only
  rw [hlead, hvowel, htail]
  split <;> rfl

theorem exists_syllable_of_range (hfirst : hangulBase ≤ n)
    (hlast : n < hangulBase + leadCount * vowelCount * tailCount) :
    ∃ l v t, (l < leadCount ∧ v < vowelCount ∧ t < tailCount) ∧ n = syllable l v t ∧
      (n - hangulBase) % tailCount = t := by
  refine ⟨(n - hangulBase) / (vowelCount * tailCount),
    (n - hangulBase) % (vowelCount * tailCount) / tailCount, (n - hangulBase) % tailCount, ?_⟩
  unfold syllable leadCount vowelCount tailCount at *
  omega

/-- Only syllables have letters. -/
theorem exists_syllable (h : hangulLetters? n = some image) :
    ∃ l v t, (l < leadCount ∧ v < vowelCount ∧ t < tailCount) ∧ n = syllable l v t := by
  unfold hangulLetters? at h
  split at h
  · rename_i hrange
    obtain ⟨l, v, t, hparts, hn, -⟩ := exists_syllable_of_range hrange.1 hrange.2
    exact ⟨l, v, t, hparts, hn⟩
  · cases h

theorem hangulSyllable?_cases (h : hangulSyllable? first second = some n) :
    (∃ l v, (l < leadCount ∧ v < vowelCount) ∧ first = leadBase + l ∧ second = vowelBase + v ∧
      n = syllable l v 0) ∨
    ∃ l v t, (l < leadCount ∧ v < vowelCount ∧ t < tailCount) ∧ t ≠ 0 ∧ first = syllable l v 0 ∧
      second = tailBase + t ∧ n = syllable l v t := by
  unfold hangulSyllable? at h
  split at h
  · rename_i hrange
    obtain rfl := Option.some.inj h
    refine Or.inl ⟨first - leadBase, second - vowelBase, ?_, ?_, ?_, ?_⟩
    · exact ⟨by omega, by omega⟩
    · omega
    · omega
    · rw [syllable, Nat.add_zero]
  · split at h
    · rename_i hrange
      obtain rfl := Option.some.inj h
      obtain ⟨hfirst, hlast, htail, hsecond⟩ := hrange
      obtain ⟨l, v, t, ⟨hl, hv, ht⟩, hn, hmod⟩ := exists_syllable_of_range hfirst hlast
      obtain rfl : t = 0 := hmod.symm.trans htail
      refine Or.inr ⟨l, v, second - tailBase, ⟨hl, hv, by omega⟩, by omega, hn, by omega, ?_⟩
      rw [hn, syllable, syllable, Nat.add_zero]
    · cases h

theorem isLetter_lead (hl : l < leadCount) : isLetter (leadBase + l) = true := by
  unfold leadCount at hl
  exact isLetter_jamo (by omega) (by omega)

theorem isLetter_vowel (hv : v < vowelCount) : isLetter (vowelBase + v) = true := by
  unfold vowelCount at hv
  exact isLetter_jamo (by unfold leadBase vowelBase; omega) (by unfold leadBase vowelBase; omega)

theorem isLetter_tail (ht : t < tailCount) : isLetter (tailBase + t) = true := by
  unfold tailCount at ht
  exact isLetter_jamo (by unfold leadBase tailBase; omega) (by unfold leadBase tailBase; omega)

theorem isLetter_hangul (h : hangulLetters? n = some image) : ∀ x ∈ image, isLetter x = true := by
  obtain ⟨l, v, t, ⟨hl, hv, ht⟩, rfl⟩ := exists_syllable h
  rw [hangulLetters?_syllable hl hv ht] at h
  cases h
  rw [List.forall_mem_cons, List.forall_mem_cons]
  refine ⟨isLetter_lead hl, isLetter_vowel hv, fun x hx => ?_⟩
  split at hx
  · cases hx
  · rw [List.mem_singleton.1 hx]
    exact isLetter_tail ht

/-- A syllable has the letters of what it is composed of. -/
theorem decomposition?_hangul (h : hangulSyllable? first second = some n) :
    decomposition? n = some ((decomposition? first).getD [first] ++ [second]) := by
  rcases hangulSyllable?_cases h with ⟨l, v, ⟨hl, hv⟩, rfl, rfl, rfl⟩ |
    ⟨l, v, t, ⟨hl, hv, ht⟩, hne, rfl, rfl, rfl⟩
  · rw [decomposition?_eq, hangulLetters?_syllable hl hv (by decide), Option.some_or,
      isLetter_iff.1 (isLetter_lead hl)]
    rfl
  · rw [decomposition?_eq, decomposition?_eq, hangulLetters?_syllable hl hv ht,
      hangulLetters?_syllable hl hv (by decide), Option.some_or, Option.some_or, if_neg hne,
      if_pos rfl]
    rfl

end Hangul

/-! ### Decomposed characters -/

/-- The character decomposes into itself. -/
def IsDecomposed (c : Char) : Prop :=
  decomposition? c.toNat = none

theorem IsDecomposed.decomposeChar (h : IsDecomposed c) : decomposeChar c = [c] := by
  unfold Unicode.decomposeChar
  rw [h]

theorem isDecomposed_ofNat (h : isLetter n = true) : IsDecomposed (Char.ofNat n) := by
  unfold IsDecomposed
  rw [Char.toNat_ofNat]
  split
  · exact isLetter_iff.1 h
  · exact decomposition?_ascii 0 (by decide)

/-- Decompositions are full. -/
theorem isDecomposed_of_mem (h : d ∈ decomposeChar c) : IsDecomposed d := by
  unfold decomposeChar at h
  split at h
  · rename_i image himage
    obtain ⟨n, hn, rfl⟩ := List.mem_map.1 h
    rw [decomposition?_eq, Option.or_eq_some_iff] at himage
    rcases himage with himage | ⟨-, himage⟩
    · exact isDecomposed_ofNat (isLetter_hangul himage n hn)
    · exact isDecomposed_ofNat (isLetter_listed himage n hn)
  · rename_i hnone
    rw [List.mem_singleton.1 h]
    exact hnone

/-! ### Composites -/

/-- What single rows are checked for. -/
theorem composites_rows : ∀ r ∈ composites,
    (∀ x ∈ [r.first, r.second, r.code], x ≠ 0x03A3 ∧ x ≠ 0x03C2 ∧ x ≠ 0x03C3) ∧
    (r.first = 0x69 → classOf r.second ≤ 230 ∧ r.second ≠ 0x0307) ∧ r.first ≠ 0x0130 ∧
    (r.code = 0x0130 → r.first = 0x49 ∧ r.second = 0x0307) ∧
    (r.second < vowelBase ∨ tailBase + tailCount ≤ r.second) ∧ r.code.isValidChar ∧
    hangulLetters? r.first = none ∧ hangulLetters? r.code = none := by
  decide +kernel

theorem compositeIn_some {table : List Composite} (h : compositeIn first second table = some n) :
    ∃ r ∈ table, r.first = first ∧ r.second = second ∧ r.code = n := by
  induction table with
  | nil => cases h
  | cons r rs ih =>
      unfold compositeIn at h
      split at h
      · cases h
      · split at h
        · rename_i hpair
          exact ⟨r, List.mem_cons_self, hpair.2, hpair.1, Option.some.inj h⟩
        · obtain ⟨r', hr', hrow⟩ := ih h
          exact ⟨r', List.mem_cons_of_mem _ hr', hrow⟩

theorem composite?_cases (h : composite? f s = some p) :
    hangulSyllable? f.toNat s.toNat = some p.toNat ∨
      ∃ r ∈ composites, r.first = f.toNat ∧ r.second = s.toNat ∧ r.code = p.toNat := by
  obtain ⟨n, hn, rfl⟩ := Option.map_eq_some_iff.1 h
  rw [Option.orElse_eq_orElse, Option.orElse_eq_or, Option.or_eq_some_iff] at hn
  rcases hn with hn | ⟨-, hn⟩
  · refine Or.inl ?_
    have hcode : n.isValidChar := by
      rcases hangulSyllable?_cases hn with ⟨l, v, ⟨hl, hv⟩, -, -, rfl⟩ |
        ⟨l, v, t, ⟨hl, hv, ht⟩, -, -, -, rfl⟩
      all_goals
        unfold Nat.isValidChar syllable hangulBase
        unfold leadCount at hl
        unfold vowelCount at *
        unfold tailCount at *
        omega
    rwa [Char.toNat_ofNat, if_pos hcode]
  · obtain ⟨r, hr, hfirst, hsecond, rfl⟩ := compositeIn_some hn
    obtain ⟨-, -, -, -, -, hvalid, -⟩ := composites_rows r hr
    exact Or.inr ⟨r, hr, hfirst, hsecond, by rw [Char.toNat_ofNat, if_pos hvalid]⟩

/-- A composite stands for the letters of its first character and its second character. -/
theorem decomposeChar_composite (h : composite? f s = some p) :
    decomposeChar p = decomposeChar f ++ [s] := by
  have hdecompose : ∀ c, decomposeChar c =
      ((decomposition? c.toNat).getD [c.toNat]).map Char.ofNat := by
    intro c
    unfold decomposeChar
    cases decomposition? c.toNat with
    | none => rw [Option.getD_none, List.map_singleton, Char.ofNat_toNat]
    | some image => rw [Option.getD_some]
  have hletters : (decomposition? p.toNat).getD [p.toNat] =
      (decomposition? f.toNat).getD [f.toNat] ++ [s.toNat] := by
    rcases composite?_cases h with h | ⟨r, hr, hfirst, hsecond, hcode⟩
    · rw [decomposition?_hangul h, Option.getD_some]
    · obtain ⟨-, -, -, -, -, -, hhfirst, hhcode⟩ := composites_rows r hr
      obtain ⟨hrow, -⟩ := composites_agree hr
      rw [← hfirst, ← hsecond, ← hcode, decomposition?_eq, decomposition?_eq, hhfirst, hhcode,
        Option.none_or, Option.none_or]
      exact hrow
  rw [hdecompose p, hdecompose f, hletters, List.map_append, List.map_singleton, Char.ofNat_toNat]

/-! ### Lower case -/

/-- The capital whose lower case is two characters: an `i` and a dot above. -/
def dottedCapital : Char := Char.ofNat 0x0130

def dotAbove : Char := Char.ofNat 0x0307

/-- Lower case of a character other than the dotted capital. -/
def lower (c : Char) : Char :=
  Char.ofNat (lowerCode c.toNat)

theorem lowercaseChar_dottedCapital : lowercaseChar dottedCapital = ['i', dotAbove] := by
  decide +kernel

theorem lowercaseChar_of_ne (h : c ≠ dottedCapital) : lowercaseChar c = [lower c] := by
  have hcode : c.toNat ≠ 0x0130 := fun hcode => h (by rw [← Char.ofNat_toNat c, hcode]; rfl)
  unfold lowercaseChar lower lowerCode
  rw [if_neg hcode, imageInRuns_lowercaseRuns]
  cases lowerCode? c.toNat with
  | none => rw [Option.getD_none, Char.ofNat_toNat]
  | some n => rw [Option.getD_some]

theorem lower_cases (c : Char) : lower c = c ∨ lowerCode? c.toNat = some (lower c).toNat := by
  unfold lower lowerCode
  cases h : lowerCode? c.toNat with
  | none => exact Or.inl (by rw [Option.getD_none, Char.ofNat_toNat])
  | some n =>
      obtain ⟨-, -, -, hvalid, -⟩ := lowerCode?_some h
      exact Or.inr (by rw [Option.getD_some, Char.toNat_ofNat, if_pos hvalid])

theorem toNat_lower (c : Char) : (lower c).toNat = lowerCode c.toNat := by
  unfold lower lowerCode
  cases h : lowerCode? c.toNat with
  | none => rw [Option.getD_none, Char.ofNat_toNat]
  | some n =>
      obtain ⟨-, -, -, hvalid, -⟩ := lowerCode?_some h
      rw [Option.getD_some, Char.toNat_ofNat, if_pos hvalid]

theorem combiningClass_eq (c : Char) : combiningClass c = classOf c.toNat :=
  classIn_combiningRanges

theorem combiningClass_lower (c : Char) : combiningClass (lower c) = combiningClass c := by
  rcases lower_cases c with h | h
  · rw [h]
  · obtain ⟨-, ⟨hc, hlower⟩, -⟩ := lowerCode?_some h
    rw [combiningClass_eq, combiningClass_eq, hc, hlower]

theorem lower_of_mark (h : combiningClass c ≠ 0) : lower c = c := by
  rcases lower_cases c with hlower | hlower
  · exact hlower
  · obtain ⟨-, ⟨hc, -⟩, -⟩ := lowerCode?_some hlower
    rw [combiningClass_eq] at h
    exact absurd hc h

theorem lower_lower (c : Char) : lower (lower c) = lower c := by
  rcases lower_cases c with h | h
  · rw [h, h]
  · obtain ⟨-, -, hnone, -⟩ := lowerCode?_some h
    rw [lower, lowerCode, hnone, Option.getD_none, Char.ofNat_toNat]

theorem IsDecomposed.lowerCase (h : IsDecomposed c) : IsDecomposed (lower c) := by
  rcases lower_cases c with hlower | hlower
  · rw [hlower]
    exact h
  · exact isLetter_iff.1 ((lowerCode?_some hlower).1 (isLetter_iff.2 h))

theorem IsDecomposed.ne_dottedCapital (h : IsDecomposed c) : c ≠ dottedCapital := by
  rintro rfl
  exact absurd (isLetter_iff.2 h) (Bool.eq_false_iff.1 isLetter_dottedCapital)

/-! ### Lower case of composites -/

theorem isCaseless_of_syllable (h : hangulSyllable? first second = some n) :
    IsCaseless first ∧ IsCaseless second ∧ IsCaseless n := by
  unfold IsCaseless hangulBase leadBase leadCount vowelCount tailCount
  rcases hangulSyllable?_cases h with ⟨l, v, ⟨hl, hv⟩, rfl, rfl, rfl⟩ |
    ⟨l, v, t, ⟨hl, hv, ht⟩, -, rfl, rfl, rfl⟩
  all_goals
    unfold syllable hangulBase vowelCount tailCount
    unfold leadCount at hl
    unfold vowelCount at hv
  · unfold leadBase vowelBase
    omega
  · unfold tailBase
    unfold tailCount at ht
    omega

theorem lower_of_isCaseless (h : IsCaseless c.toNat) : lower c = c := by
  refine (lower_cases c).resolve_right fun hlower => ?_
  obtain ⟨-, -, -, -, hcaseless, -⟩ := lowerCode?_some hlower
  exact hcaseless h

/-- The second character of a composite is a mark or of a script without letter case. -/
theorem second_cases (h : composite? f s = some p) :
    classOf s.toNat ≠ 0 ∨ IsCaseless s.toNat := by
  rcases composite?_cases h with hsyllable | ⟨r, hr, -, hsecond, -⟩
  · exact Or.inr (isCaseless_of_syllable hsyllable).2.1
  · rw [← hsecond]
    exact (composites_agree hr).2.2

theorem lower_second (h : composite? f s = some p) : lower s = s := by
  refine (lower_cases s).resolve_right fun hs => ?_
  obtain ⟨-, ⟨hclass, -⟩, -, -, hcaseless, -⟩ := lowerCode?_some hs
  exact (second_cases h).elim (absurd hclass) hcaseless

/-- The second character of a composite is the lower case of nothing else. -/
theorem eq_of_lower_eq (h : composite? f s = some p) (hc : lower c = s) : c = s := by
  rcases lower_cases c with hlower | hlower
  · rw [← hlower, hc]
  · rw [hc] at hlower
    obtain ⟨-, ⟨-, hclass⟩, -, -, -, hcaseless⟩ := lowerCode?_some hlower
    exact ((second_cases h).elim (absurd hclass) hcaseless).elim

theorem hangulSyllable?_row {r : Composite} (hr : r ∈ composites) :
    hangulSyllable? first r.second = none := by
  obtain ⟨-, -, -, -, hrange, -⟩ := composites_rows r hr
  rw [Option.eq_none_iff_forall_ne_some]
  intro n h
  unfold vowelBase tailBase tailCount at hrange
  rcases hangulSyllable?_cases h with ⟨l, v, ⟨hl, hv⟩, -, hsecond, -⟩ |
    ⟨l, v, t, ⟨hl, hv, ht⟩, -, -, hsecond, -⟩
  · unfold vowelBase at hsecond
    unfold vowelCount at hv
    omega
  · unfold tailBase at hsecond
    unfold tailCount at ht
    omega

/-- Composing keeps to the letter case. -/
theorem lower_composite (h : composite? f s = some p) (hp : p ≠ dottedCapital) :
    composite? (lower f) s = some (lower p) := by
  rcases composite?_cases h with hsyllable | ⟨r, hr, hfirst, hsecond, hcode⟩
  · obtain ⟨hf, -, hsyllable⟩ := isCaseless_of_syllable hsyllable
    rw [lower_of_isCaseless hf, lower_of_isCaseless hsyllable, h]
  · have hnone : hangulSyllable? (lower f).toNat s.toNat = none := by
      rw [← hsecond]
      exact hangulSyllable?_row hr
    have hrow : compositeOf? (lowerCode f.toNat) s.toNat = some (lowerCode p.toNat) := by
      rw [← hfirst, ← hsecond, ← hcode]
      refine (composites_agree hr).2.1.resolve_left fun hdotted => hp ?_
      rw [← Char.ofNat_toNat p, ← hcode, hdotted]
      rfl
    have hvalid : (lower f).toNat < 2 ^ 21 := by
      have hchar : (lower f).toNat.isValidChar := (lower f).valid
      unfold Nat.isValidChar at hchar
      omega
    unfold composite?
    rw [hnone, compositeIn_composites hvalid, toNat_lower, hrow]
    rfl

/-! ### Dots and sigmas -/

theorem eq_ofNat (h : c.toNat = n) : c = Char.ofNat n := by
  rw [← h, Char.ofNat_toNat]

theorem combiningClass_dotAbove : combiningClass dotAbove = 230 := by
  decide +kernel

/-- What an `i` is composed with does not go behind a dot above. -/
theorem composite?_i (h : composite? 'i' s = some p) :
    combiningClass s ≤ 230 ∧ s ≠ dotAbove := by
  rcases composite?_cases h with hsyllable | ⟨r, hr, hfirst, hsecond, -⟩
  · have hi : ¬ IsCaseless 'i'.toNat := by decide
    exact absurd (isCaseless_of_syllable hsyllable).1 hi
  · obtain ⟨-, hi, -⟩ := composites_rows r hr
    rw [combiningClass_eq, ← hsecond]
    refine ⟨(hi hfirst).1, ?_⟩
    rintro rfl
    exact (hi hfirst).2 hsecond

theorem composite?_dottedCapital : composite? dottedCapital s = none := by
  rw [Option.eq_none_iff_forall_ne_some]
  intro p h
  rcases composite?_cases h with hsyllable | ⟨r, hr, hfirst, -⟩
  · have hi : ¬ IsCaseless dottedCapital.toNat := by decide
    exact hi (isCaseless_of_syllable hsyllable).1
  · obtain ⟨-, -, hi, -⟩ := composites_rows r hr
    exact hi hfirst

theorem eq_of_composite?_dottedCapital (h : composite? f s = some dottedCapital) :
    f = 'I' ∧ s = dotAbove := by
  rcases composite?_cases h with hsyllable | ⟨r, hr, hfirst, hsecond, hcode⟩
  · have hi : ¬ IsCaseless dottedCapital.toNat := by decide
    exact absurd (isCaseless_of_syllable hsyllable).2.2 hi
  · obtain ⟨-, -, -, hi, -⟩ := composites_rows r hr
    obtain ⟨hf, hs⟩ := hi hcode
    exact ⟨eq_ofNat (hfirst.symm.trans hf), eq_ofNat (hsecond.symm.trans hs)⟩

/-- The capital sigma and its two lower-case forms. -/
def IsSigma (c : Char) : Prop :=
  c.toNat = 0x03A3 ∨ c.toNat = 0x03C2 ∨ c.toNat = 0x03C3

instance : DecidablePred IsSigma :=
  fun _ => inferInstanceAs (Decidable (_ ∨ _))

/-- Sigmas are neither composed nor composites. -/
theorem not_isSigma_of_composite (h : composite? f s = some p) :
    ¬ IsSigma f ∧ ¬ IsSigma s ∧ ¬ IsSigma p := by
  unfold IsSigma
  rcases composite?_cases h with hsyllable | ⟨r, hr, hfirst, hsecond, hcode⟩
  · have hsigma : ∀ {n}, IsCaseless n → ¬ (n = 0x03A3 ∨ n = 0x03C2 ∨ n = 0x03C3) := by
      unfold IsCaseless leadBase hangulBase
      omega
    obtain ⟨hf, hs, hp⟩ := isCaseless_of_syllable hsyllable
    exact ⟨hsigma hf, hsigma hs, hsigma hp⟩
  · obtain ⟨hrow, -⟩ := composites_rows r hr
    have hsigma : ∀ x ∈ [f.toNat, s.toNat, p.toNat], ¬ (x = 0x03A3 ∨ x = 0x03C2 ∨ x = 0x03C3) := by
      rw [← hfirst, ← hsecond, ← hcode]
      exact fun x hx => by have := hrow x hx; omega
    exact ⟨hsigma _ (by simp), hsigma _ (by simp), hsigma _ (by simp)⟩

end PostSearch.Unicode
