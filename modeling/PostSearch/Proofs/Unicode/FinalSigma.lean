import Mathlib
import PostSearch.Proofs.Unicode.LetterCase

/-! # Sigmas

The lower case of a text is that of its characters one by one, where some capital sigmas are taken
for final ones (`exists_lowercase`). Sigmas are not composed, so that composing does not depend on
which sigmas a text has (`exists_composed`). -/

namespace PostSearch.Unicode

variable {a b c c' p starter starter' : Char} {passed s s' t u : List Char}

/-- The same character, or two sigmas. -/
def SameButSigma (a b : Char) : Prop :=
  a = b ∨ IsSigma a ∧ IsSigma b

theorem SameButSigma.symm (h : SameButSigma a b) : SameButSigma b a := by
  rcases h with rfl | ⟨ha, hb⟩
  · exact Or.inl rfl
  · exact Or.inr ⟨hb, ha⟩

theorem SameButSigma.eq (h : SameButSigma a b) (ha : ¬ IsSigma a) : b = a := by
  rcases h with rfl | ⟨hsigma, -⟩
  · rfl
  · exact absurd hsigma ha

/-- What the tables say of the three sigmas. -/
theorem IsSigma.agrees (h : IsSigma c) :
    combiningClass c = 0 ∧ decomposition? c.toNat = none ∧ IsSigma (lower c) := by
  have hsigmas : ∀ n ∈ [0x03A3, 0x03C2, 0x03C3], combiningClass (Char.ofNat n) = 0 ∧
      decomposition? (Char.ofNat n).toNat = none ∧ IsSigma (lower (Char.ofNat n)) := by
    decide +kernel
  have hn : c.toNat ∈ [0x03A3, 0x03C2, 0x03C3] := by
    simpa [IsSigma] using h
  have hc := hsigmas _ hn
  rwa [Char.ofNat_toNat] at hc

theorem IsSigma.combiningClass (h : IsSigma c) : combiningClass c = 0 :=
  h.agrees.1

theorem IsSigma.isDecomposed (h : IsSigma c) : IsDecomposed c :=
  h.agrees.2.1

theorem IsSigma.lower (h : IsSigma c) : IsSigma (lower c) :=
  h.agrees.2.2

theorem SameButSigma.combiningClass (h : SameButSigma a b) :
    combiningClass b = combiningClass a := by
  rcases h with rfl | ⟨ha, hb⟩
  · rfl
  · rw [ha.combiningClass, hb.combiningClass]

theorem SameButSigma.isDecomposed (h : SameButSigma a b) (ha : IsDecomposed a) :
    IsDecomposed b := by
  rcases h with rfl | ⟨-, hb⟩
  · exact ha
  · exact hb.isDecomposed

/-! ### Lower case of a text -/

/-- Capital sigmas at the end of words are taken for final ones. -/
theorem exists_lowercaseAfter (before s : List Char) :
    ∃ t, List.Forall₂ SameButSigma s t ∧ lowercaseAfter before s = t.flatMap lowercaseChar := by
  induction s generalizing before with
  | nil => exact ⟨[], .nil, rfl⟩
  | cons c s ih =>
      obtain ⟨t, ht, hlower⟩ := ih (c :: before)
      rw [lowercaseAfter, hlower]
      split
      · rename_i hfinal
        refine ⟨Char.ofNat 0x03C2 :: t, .cons (Or.inr ⟨Or.inl hfinal.1, ?_⟩) ht, ?_⟩
        · decide
        · have hsigma : lowercaseChar (Char.ofNat 0x03C2) = [Char.ofNat 0x03C2] := by
            decide +kernel
          rw [List.flatMap_cons, hsigma]
      · exact ⟨c :: t, .cons (Or.inl rfl) ht, rfl⟩

theorem lowercaseAfter_eq_self (before : List Char) (h : ∀ c ∈ s, lowercaseChar c = [c]) :
    lowercaseAfter before s = s := by
  induction s generalizing before with
  | nil => rfl
  | cons c s ih =>
      obtain ⟨hc, hs⟩ := List.forall_mem_cons.1 h
      have hsigma : ¬ (c.toNat = 0x03A3 ∧ isFinalSigma before s) := by
        rintro ⟨hcapital, -⟩
        rw [eq_ofNat hcapital] at hc
        exact absurd hc (by decide +kernel)
      rw [lowercaseAfter, if_neg hsigma, hc, ih _ hs, List.singleton_append]

/-! ### Composing -/

theorem composite?_eq_none_of_isSigma (h : IsSigma starter ∨ IsSigma c) :
    composite? starter c = none := by
  rw [Option.eq_none_iff_forall_ne_some]
  intro p hp
  obtain ⟨hstarter, hc, -⟩ := not_isSigma_of_composite hp
  exact h.elim hstarter hc

theorem absorbs?_congr (passed : List Char) (hstarter : SameButSigma starter starter')
    (hc : SameButSigma c c') :
    absorbs? starter' passed c' = absorbs? starter passed c := by
  have hnone (h : (IsSigma starter ∧ IsSigma starter') ∨ (IsSigma c ∧ IsSigma c')) :
      absorbs? starter' passed c' = absorbs? starter passed c := by
    rw [absorbs?_of_composite? (composite?_eq_none_of_isSigma (h.imp And.right And.right)),
      absorbs?_of_composite? (composite?_eq_none_of_isSigma (h.imp And.left And.left))]
  rcases hstarter with rfl | hsigma
  · rcases hc with rfl | hsigma
    · rfl
    · exact hnone (Or.inr hsigma)
  · exact hnone (Or.inl hsigma)

/-- Texts that differ in sigmas only are composed alike in both letter cases, or neither is. -/
theorem keepsCase_congr (hstarter : SameButSigma starter starter')
    (hs : List.Forall₂ SameButSigma s t) (h : KeepsCase starter passed s) :
    KeepsCase starter' passed t := by
  induction hs generalizing starter starter' passed with
  | nil => trivial
  | @cons c c' s t hc hs ih =>
      have habsorbs := absorbs?_congr passed hstarter hc
      cases hnone : absorbs? starter passed c with
      | some p =>
          obtain ⟨hp, hrest⟩ := (keepsCase_absorbed hnone).1 h
          exact (keepsCase_absorbed (habsorbs.trans hnone)).2 ⟨hp, ih (Or.inl rfl) hrest⟩
      | none =>
          have hfirst : ∀ d, lowercaseChar starter' = [d] → absorbs? d passed c' = none := by
            intro d hd
            rcases hstarter with rfl | ⟨-, hsigma⟩
            · rw [absorbs?_congr passed (Or.inl rfl) hc]
              exact keepsCase_none hnone h d hd
            · rw [lowercaseChar_of_ne hsigma.isDecomposed.ne_dottedCapital, List.cons.injEq] at hd
              exact absorbs?_of_composite?
                (composite?_eq_none_of_isSigma (Or.inl (hd.1 ▸ hsigma.lower)))
          by_cases hclass : combiningClass c = 0
          · rw [keepsCase_starter (habsorbs.trans hnone) (hc.combiningClass.trans hclass)]
            exact ⟨hfirst, ih hc ((keepsCase_starter hnone hclass).1 h).2⟩
          · obtain rfl : c' = c := hc.eq fun hsigma => hclass hsigma.combiningClass
            rw [keepsCase_passed (habsorbs.trans hnone) hclass]
            exact ⟨hfirst, ih hstarter ((keepsCase_passed hnone hclass).1 h).2⟩

/-- Marks are no sigmas. -/
theorem exists_behind_marks {marks : List Char} (hmarks : ∀ d ∈ marks, combiningClass d ≠ 0)
    (h : List.Forall₂ SameButSigma (marks ++ s) u) :
    ∃ t, List.Forall₂ SameButSigma s t ∧ u = marks ++ t := by
  induction marks generalizing u with
  | nil => exact ⟨u, h, rfl⟩
  | cons d marks ih =>
      obtain ⟨hd, hmarks⟩ := List.forall_mem_cons.1 hmarks
      obtain ⟨e, v, he, hv, rfl⟩ := List.forall₂_cons_left_iff.1 h
      obtain ⟨t, ht, rfl⟩ := ih hmarks hv
      exact ⟨t, ht, by rw [he.eq fun hsigma => hd hsigma.combiningClass, List.cons_append]⟩

/-- What a composed text becomes when sigmas are exchanged is composed of such a text. -/
theorem exists_composedAfter (hmarks : ∀ d ∈ passed, combiningClass d ≠ 0)
    (h : List.Forall₂ SameButSigma (composeAfter starter passed s) u) :
    ∃ starter' t, SameButSigma starter starter' ∧ List.Forall₂ SameButSigma s t ∧
      composeAfter starter' passed t = u := by
  induction starter, passed, s using composeAfter_induction generalizing u with
  | nil starter passed =>
      obtain ⟨starter', v, hstarter, hv, rfl⟩ := List.forall₂_cons_left_iff.1 h
      rw [← List.append_nil passed.reverse] at hv
      obtain ⟨t, ht, rfl⟩ := exists_behind_marks (fun d hd => hmarks d (List.mem_reverse.1 hd)) hv
      exact ⟨starter', t, hstarter, ht, by cases ht; rw [composeAfter, List.append_nil]⟩
  | absorbed starter passed c s p habsorbs ih =>
      rw [composeAfter_absorbed habsorbs] at h
      obtain ⟨p', t, hp', ht, rfl⟩ := ih hmarks h
      obtain ⟨-, -, hp⟩ := not_isSigma_of_composite (composite?_of_absorbs? habsorbs)
      obtain rfl := hp'.eq hp
      exact ⟨starter, c :: t, Or.inl rfl, .cons (Or.inl rfl) ht, composeAfter_absorbed habsorbs⟩
  | next starter passed c s hnone hclass ih =>
      rw [composeAfter_starter hnone hclass, List.cons_append] at h
      obtain ⟨starter', v, hstarter, hv, rfl⟩ := List.forall₂_cons_left_iff.1 h
      obtain ⟨w, hw, rfl⟩ := exists_behind_marks (fun d hd => hmarks d (List.mem_reverse.1 hd)) hv
      obtain ⟨c', t, hc', ht, rfl⟩ := ih (List.forall_mem_nil _) hw
      refine ⟨starter', c' :: t, hstarter, .cons hc' ht, ?_⟩
      rw [composeAfter_starter ((absorbs?_congr passed hstarter hc').trans hnone)
        (hc'.combiningClass.trans hclass), List.cons_append]
  | pass starter passed c s hnone hclass ih =>
      rw [composeAfter_passed hnone hclass] at h
      obtain ⟨starter', t, hstarter, ht, rfl⟩ := ih (List.forall_mem_cons.2 ⟨hclass, hmarks⟩) h
      refine ⟨starter', c :: t, hstarter, .cons (Or.inl rfl) ht, ?_⟩
      have hnone' := (absorbs?_congr passed hstarter (Or.inl rfl)).trans hnone
      exact composeAfter_passed hnone' hclass

theorem exists_composed (h : List.Forall₂ SameButSigma (compose s) u) :
    ∃ t, List.Forall₂ SameButSigma s t ∧ compose t = u := by
  cases s with
  | nil => exact ⟨[], .nil, (List.forall₂_nil_left_iff.1 h).symm⟩
  | cons c s =>
      obtain ⟨c', t, hc, ht, hu⟩ := exists_composedAfter (List.forall_mem_nil _) h
      exact ⟨c' :: t, .cons hc ht, hu⟩

/-! ### Texts that differ in sigmas only -/

section

variable (h : List.Forall₂ SameButSigma s t)
include h

theorem isOrdered_congr (hs : IsOrdered s) : IsOrdered t := by
  induction h with
  | nil => exact hs
  | @cons a b s t hab hst ih =>
      obtain ⟨hhead, htail⟩ := isOrdered_cons.1 hs
      refine isOrdered_cons.2 ⟨fun d hd => ?_, ih htail⟩
      cases hst with
      | nil => cases hd
      | cons hce =>
          obtain rfl := Option.some.inj hd
          rw [hab.combiningClass, hce.combiningClass]
          exact hhead _ rfl

theorem forall_isDecomposed_congr (hs : ∀ c ∈ s, IsDecomposed c) : ∀ c ∈ t, IsDecomposed c := by
  induction h with
  | nil => exact hs
  | cons hab _ ih =>
      obtain ⟨ha, hs⟩ := List.forall_mem_cons.1 hs
      exact List.forall_mem_cons.2 ⟨hab.isDecomposed ha, ih hs⟩

theorem composesAlike_congr : ComposesAlike s ↔ ComposesAlike t := by
  cases h with
  | nil => exact Iff.rfl
  | cons hab hst =>
      have hts := List.Forall₂.flip (hst.imp fun _ _ => SameButSigma.symm)
      exact ⟨keepsCase_congr hab hst, keepsCase_congr hab.symm hts⟩

end

end PostSearch.Unicode
