import Mathlib
import PostSearch.Proofs.Unicode.Composition

/-! # Composing in both letter cases

Lower case and composition commute on an ordered text of letters exactly if composing goes alike in
both letter cases (`lowercase_composeAfter_iff`): no starter has a composite in lower case only, and
no dotted `İ` is composed past other marks. -/

namespace PostSearch.Unicode

variable {starter starter' p q c d : Char} {passed passed' s t : List Char}

/-- Composing a text behind a starter and the marks that it passed (last first) goes alike in both
letter cases. -/
def KeepsCase (starter : Char) (passed : List Char) : List Char → Prop
  | [] => True
  | c :: s =>
    match absorbs? starter passed c with
    | some p => (passed = [] ∨ ∃ d, lowercaseChar p = [d]) ∧ KeepsCase p passed s
    | none =>
      (∀ d, lowercaseChar starter = [d] → absorbs? d passed c = none) ∧
        if combiningClass c = 0 then KeepsCase c [] s else KeepsCase starter (c :: passed) s

theorem keepsCase_absorbed (h : absorbs? starter passed c = some p) :
    KeepsCase starter passed (c :: s) ↔
      (passed = [] ∨ ∃ d, lowercaseChar p = [d]) ∧ KeepsCase p passed s := by
  rw [KeepsCase, h]

theorem keepsCase_starter (h : absorbs? starter passed c = none) (hc : combiningClass c = 0) :
    KeepsCase starter passed (c :: s) ↔
      (∀ d, lowercaseChar starter = [d] → absorbs? d passed c = none) ∧ KeepsCase c [] s := by
  rw [KeepsCase, h]
  dsimp only
  rw [if_pos hc]

theorem keepsCase_passed (h : absorbs? starter passed c = none) (hc : combiningClass c ≠ 0) :
    KeepsCase starter passed (c :: s) ↔
      (∀ d, lowercaseChar starter = [d] → absorbs? d passed c = none) ∧
        KeepsCase starter (c :: passed) s := by
  rw [KeepsCase, h]
  dsimp only
  rw [if_neg hc]

theorem keepsCase_none (h : absorbs? starter passed c = none)
    (hkeeps : KeepsCase starter passed (c :: s)) :
    ∀ d, lowercaseChar starter = [d] → absorbs? d passed c = none := by
  rw [KeepsCase, h] at hkeeps
  exact hkeeps.1

/-! ### Texts in lower case -/

theorem isOrdered_map_lower : IsOrdered (s.map lower) ↔ IsOrdered s := by
  unfold IsOrdered
  rw [List.isChain_map]
  simp only [combiningClass_lower]

theorem IsPassed.map_lower (h : IsPassed passed s) : IsPassed passed (s.map lower) := by
  refine ⟨h.marks, h.sorted, isOrdered_map_lower.2 h.rest, fun e he => ?_⟩
  rw [List.head?_map] at he
  obtain ⟨c, hc, rfl⟩ := Option.map_eq_some_iff.1 he
  rw [combiningClass_lower]
  exact h.next c hc

theorem flatMap_lowercaseChar_marks (h : ∀ d ∈ passed, 0 < combiningClass d) :
    passed.reverse.flatMap lowercaseChar = passed.reverse := by
  refine flatMap_eq_self fun d hd => ?_
  have hmark := (h d (List.mem_reverse.1 hd)).ne'
  have hne : d ≠ dottedCapital := by
    rintro rfl
    exact hmark (by decide +kernel)
  rw [lowercaseChar_of_ne hne, lower_of_mark hmark]

theorem lowercaseChar_of_mem_compose (hletters : ∀ c ∈ s, IsDecomposed c) :
    ∀ c ∈ compose (s.map lower), lowercaseChar c = [c] := by
  have hcomposite : ∀ f c p, composite? f c = some p → (f ≠ dottedCapital ∧ lower f = f) →
      p ≠ dottedCapital ∧ lower p = p := by
    rintro f c p hp ⟨-, hlower⟩
    have hne : p ≠ dottedCapital := by
      rintro rfl
      obtain ⟨rfl, -⟩ := eq_of_composite?_dottedCapital hp
      exact absurd hlower (by decide +kernel)
    have hp' := lower_composite hp hne
    rw [hlower, hp] at hp'
    exact ⟨hne, (Option.some.inj hp').symm⟩
  have hs : ∀ c ∈ s.map lower, c ≠ dottedCapital ∧ lower c = c := by
    intro c hc
    obtain ⟨d, hd, rfl⟩ := List.mem_map.1 hc
    exact ⟨(hletters d hd).lowerCase.ne_dottedCapital, lower_lower d⟩
  intro c hc
  cases hlower : s.map lower with
  | nil =>
      rw [hlower] at hc
      cases hc
  | cons d t =>
      rw [hlower] at hc hs
      obtain ⟨hd, ht⟩ := List.forall_mem_cons.1 hs
      obtain ⟨hne, hc⟩ := forall_composeAfter hcomposite hd (List.forall_mem_nil _) ht c hc
      rw [lowercaseChar_of_ne hne, hc]

/-! ### Starters that absorb nothing -/

/-- A starter that has no composite with later marks stays in front of what it passed. -/
theorem exists_unabsorbed (starter : Char) (h : IsPassed passed s)
    (hnone : ∀ c, (∀ d ∈ passed, combiningClass d < combiningClass c) →
      composite? starter c = none) :
    ∃ t, composeAfter starter passed s = starter :: passed.reverse ++ t := by
  induction s generalizing passed with
  | nil => exact ⟨[], (List.append_nil _).symm⟩
  | cons c s ih =>
      have habsorbs : absorbs? starter passed c = none := by
        rcases absorbs?_cases h.sorted c with hblocked | hlt
        · exact hblocked starter
        · exact absorbs?_of_composite? (hnone c hlt)
      by_cases hc : combiningClass c = 0
      · exact ⟨_, composeAfter_starter habsorbs hc⟩
      · obtain ⟨t, ht⟩ := ih (h.push hc) fun e he =>
          hnone e fun d hd => he d (List.mem_cons_of_mem _ hd)
        refine ⟨c :: t, ?_⟩
        rw [composeAfter_passed habsorbs hc, ht, List.reverse_cons, List.cons_append,
          List.append_assoc, List.singleton_append, List.cons_append]

theorem composite?_i_dotAbove : composite? 'i' dotAbove = none := by
  rw [Option.eq_none_iff_forall_ne_some]
  exact fun p hp => (composite?_i hp).2 rfl

theorem composite?_i_eq_none (hdot : dotAbove ∈ passed)
    (hlt : ∀ d ∈ passed, combiningClass d < combiningClass c) : composite? 'i' c = none := by
  rw [Option.eq_none_iff_forall_ne_some]
  intro p hp
  have := (composite?_i hp).1
  have := hlt dotAbove hdot
  rw [combiningClass_dotAbove] at this
  omega

/-! ### Where the letter cases part -/

/-- A character that was passed is not among the marks that are absorbed later. -/
theorem exists_head_passed (h : IsPassed passed (c :: s))
    (hnone : absorbs? starter passed c = none) :
    ∃ p t marks, composeAfter starter passed (c :: s) = p :: t ∧
      (∀ image, TakesApart image → image p = image starter ++ marks) ∧ c ∉ marks := by
  by_cases hc : combiningClass c = 0
  · exact ⟨starter, _, [], composeAfter_starter hnone hc, fun _ _ => (List.append_nil _).symm,
      List.not_mem_nil⟩
  · obtain ⟨p, t, marks, hp, himage, hmarks⟩ := exists_head starter (h.push hc)
    refine ⟨p, t, marks, (composeAfter_passed hnone hc).trans hp, himage, fun hmem => ?_⟩
    exact lt_irrefl _ (hmarks c hmem c List.mem_cons_self)

/-- A starter with a composite in lower case only becomes another character there. -/
theorem lowercase_ne_of_lowerOnly (h : IsPassed passed (c :: s))
    (hstarter : starter ≠ dottedCapital) (hnone : absorbs? starter passed c = none)
    (hq : composite? (lower starter) c = some q)
    (hlt : ∀ d ∈ passed, combiningClass d < combiningClass c) :
    (composeAfter starter passed (c :: s)).flatMap lowercaseChar ≠
      composeAfter q passed (s.map lower) := by
  obtain ⟨p, t, marks, hp, himage, hmarks⟩ := exists_head_passed h hnone
  obtain ⟨p', t', marks', hp', himage', -⟩ := exists_head q (h.drop hlt).map_lower
  have hletters : lowerLetters p = decomposeChar (lower starter) ++ marks := by
    rw [himage _ takesApart_lowerLetters, lowerLetters_of_ne hstarter]
  have hletters' : decomposeChar p' = decomposeChar (lower starter) ++ c :: marks' := by
    rw [himage' _ takesApart_decomposeChar, decomposeChar_composite hq, List.append_assoc,
      List.singleton_append]
  intro heq
  rw [hp, hp', List.flatMap_cons] at heq
  by_cases hdotted : p = dottedCapital
  · subst hdotted
    rw [lowercaseChar_dottedCapital, List.cons_append, List.cons.injEq] at heq
    have hi : decomposeChar 'i' = ['i'] := by decide +kernel
    have hdot : lowerLetters dottedCapital = ['i', dotAbove] := by decide +kernel
    rw [← heq.1, hi] at hletters'
    rw [hdot] at hletters
    -- The starter has no letters of its own, so that the `i` is the passed character.
    cases hfirst : decomposeChar (lower starter) with
    | nil =>
        rw [hfirst, List.nil_append, List.cons.injEq] at hletters'
        rw [hfirst, List.nil_append] at hletters
        rw [← hletters, ← hletters'.1] at hmarks
        exact hmarks List.mem_cons_self
    | cons x xs =>
        rw [hfirst, List.cons_append, List.cons.injEq] at hletters'
        exact absurd hletters'.2.symm (List.append_ne_nil_of_right_ne_nil _ (List.cons_ne_nil _ _))
  · rw [lowercaseChar_of_ne hdotted, List.singleton_append, List.cons.injEq] at heq
    rw [lowerLetters_of_ne hdotted, heq.1, hletters', List.append_cancel_left_eq] at hletters
    exact hmarks (hletters ▸ List.mem_cons_self)

/-- A dotted capital that is composed past other marks has its dot before them in lower case. -/
theorem lowercase_ne_of_dotted (h : IsPassed passed (dotAbove :: s)) (hpassed : passed ≠ [])
    (hlt : ∀ d ∈ passed, combiningClass d < combiningClass dotAbove) :
    (composeAfter dottedCapital passed s).flatMap lowercaseChar ≠
      composeAfter 'i' (dotAbove :: passed) (s.map lower) := by
  have hdot : combiningClass dotAbove ≠ 0 := by
    rw [combiningClass_dotAbove]
    decide
  obtain ⟨t, ht⟩ := exists_unabsorbed _ (h.drop hlt) fun _ _ => composite?_dottedCapital
  obtain ⟨t', ht'⟩ := exists_unabsorbed 'i' (h.push hdot).map_lower fun c hc =>
    composite?_i_eq_none List.mem_cons_self hc
  intro heq
  rw [ht, ht', List.cons_append, List.flatMap_cons, List.flatMap_append,
    flatMap_lowercaseChar_marks h.marks, lowercaseChar_dottedCapital, List.reverse_cons] at heq
  cases hreverse : passed.reverse with
  | nil => exact hpassed (List.reverse_eq_nil_iff.1 hreverse)
  | cons d marks =>
      rw [hreverse] at heq
      simp only [List.cons_append, List.nil_append, List.cons.injEq, true_and] at heq
      have hd := hlt d (List.mem_reverse.1 (hreverse ▸ List.mem_cons_self))
      rw [← heq.1] at hd
      exact lt_irrefl _ hd

/-! ### The two letter cases side by side -/

/-- Only what has no letter case is the second character of a composite. -/
theorem composite?_lower {f : Char} : composite? f (lower c) = composite? f c := by
  cases hc : composite? f c with
  | some p => rw [lower_second hc, hc]
  | none =>
      cases hlower : composite? f (lower c) with
      | none => rfl
      | some p => rw [← hlower, ← eq_of_lower_eq hlower rfl, hc]

theorem absorbs?_lower : absorbs? starter passed (lower c) = absorbs? starter passed c := by
  unfold absorbs?
  rw [combiningClass_lower, composite?_lower]

/-- A starter and the marks that it passed, and what stands for them when the text is composed in
lower case: a dotted capital is an `i` there that passed a dot. -/
inductive Shadows : Char → List Char → Char → List Char → Prop
  | plain {starter : Char} {passed : List Char} (h : starter ≠ dottedCapital) :
    Shadows starter passed (lower starter) passed
  | dotted {passed : List Char} : Shadows dottedCapital passed 'i' (passed ++ [dotAbove])

theorem Shadows.marks (h : Shadows starter passed starter' passed') (hpassed : IsPassed passed' s) :
    ∀ d ∈ passed, 0 < combiningClass d := by
  cases h with
  | plain => exact hpassed.marks
  | dotted => exact fun d hd => hpassed.marks d (List.mem_append_left _ hd)

theorem Shadows.start (h : Shadows starter passed starter' passed') (hpassed : IsPassed passed' s) :
    lowercaseChar starter ++ passed.reverse.flatMap lowercaseChar =
      starter' :: passed'.reverse := by
  rw [flatMap_lowercaseChar_marks (h.marks hpassed)]
  cases h with
  | plain hstarter => rw [lowercaseChar_of_ne hstarter, List.singleton_append]
  | dotted =>
      rw [lowercaseChar_dottedCapital, List.reverse_append, List.reverse_singleton,
        List.singleton_append, List.cons_append, List.singleton_append]

theorem Shadows.push (h : Shadows starter passed starter' passed') :
    Shadows starter (c :: passed) starter' (c :: passed') := by
  cases h with
  | plain hstarter => exact .plain hstarter
  | dotted => exact .dotted

/-- Lower case commutes with composing the text, whatever it is composed behind, exactly if
composing goes alike in both letter cases. -/
def CommutesIfKept (s : List Char) : Prop :=
  ∀ ⦃starter passed starter' passed'⦄, Shadows starter passed starter' passed' →
    IsPassed passed' s →
      ((composeAfter starter passed s).flatMap lowercaseChar =
        composeAfter starter' passed' (s.map lower) ↔ KeepsCase starter passed s)

section

variable (ih : CommutesIfKept s)
include ih

/-- One step at a character that is absorbed in neither letter case. -/
theorem commutes_unabsorbed (hshadows : Shadows starter passed starter' passed')
    (h : IsPassed passed' (c :: s)) (hc : IsDecomposed c)
    (hnone : absorbs? starter passed c = none) (hnone' : absorbs? starter' passed' c = none)
    (hfirst : ∀ d, lowercaseChar starter = [d] → absorbs? d passed c = none) :
    (composeAfter starter passed (c :: s)).flatMap lowercaseChar =
      composeAfter starter' passed' ((c :: s).map lower) ↔ KeepsCase starter passed (c :: s) := by
  rw [← absorbs?_lower] at hnone'
  rw [List.map_cons]
  by_cases hclass : combiningClass c = 0
  · have hnext : Shadows c [] (lower c) [] := .plain hc.ne_dottedCapital
    rw [composeAfter_starter hnone hclass,
      composeAfter_starter hnone' (by rwa [combiningClass_lower]), List.cons_append,
      List.flatMap_cons, List.flatMap_append, ← List.append_assoc, hshadows.start h,
      List.append_cancel_left_eq, ih hnext h.tail, keepsCase_starter hnone hclass]
    exact (and_iff_right hfirst).symm
  · rw [composeAfter_passed hnone hclass,
      composeAfter_passed hnone' (by rwa [combiningClass_lower]), lower_of_mark hclass,
      ih hshadows.push (h.push hclass), keepsCase_passed hnone hclass]
    exact (and_iff_right hfirst).symm

/-- One step behind a dotted capital, which absorbs nothing. -/
theorem commutes_dotted (h : IsPassed (passed ++ [dotAbove]) (c :: s)) (hc : IsDecomposed c) :
    (composeAfter dottedCapital passed (c :: s)).flatMap lowercaseChar =
      composeAfter 'i' (passed ++ [dotAbove]) ((c :: s).map lower) ↔
        KeepsCase dottedCapital passed (c :: s) := by
  refine commutes_unabsorbed ih .dotted h hc (absorbs?_of_composite? composite?_dottedCapital) ?_
    fun d hd => ?_
  · rcases absorbs?_cases h.sorted c with hblocked | hlt
    · exact hblocked 'i'
    · have hdot : dotAbove ∈ passed ++ [dotAbove] := List.mem_append_right _ List.mem_cons_self
      exact absorbs?_of_composite? (composite?_i_eq_none hdot hlt)
  · rw [lowercaseChar_dottedCapital] at hd
    cases hd

/-- One step at a character that another starter does not absorb. -/
theorem commutes_plain (hstarter : starter ≠ dottedCapital) (h : IsPassed passed (c :: s))
    (hc : IsDecomposed c) (hnone : absorbs? starter passed c = none) :
    (composeAfter starter passed (c :: s)).flatMap lowercaseChar =
      composeAfter (lower starter) passed ((c :: s).map lower) ↔
        KeepsCase starter passed (c :: s) := by
  cases hlower : absorbs? (lower starter) passed c with
  | none =>
      refine commutes_unabsorbed ih (.plain hstarter) h hc hnone hlower fun d hd => ?_
      rw [lowercaseChar_of_ne hstarter, List.cons.injEq] at hd
      rw [← hd.1, hlower]
  | some q =>
      obtain ⟨hlt, hq⟩ := lt_of_absorbs? h.sorted hlower
      rw [List.map_cons, lower_second hq, composeAfter_absorbed hlower]
      refine iff_of_false (lowercase_ne_of_lowerOnly h hstarter hnone hq hlt) fun hkeeps => ?_
      rw [keepsCase_none hnone hkeeps _ (lowercaseChar_of_ne hstarter)] at hlower
      cases hlower

/-- One step at a dot that is absorbed into a dotted capital. -/
theorem commutes_dot (h : IsPassed passed (dotAbove :: s))
    (hlt : ∀ d ∈ passed, combiningClass d < combiningClass dotAbove) :
    (composeAfter dottedCapital passed s).flatMap lowercaseChar =
        composeAfter 'i' passed (dotAbove :: s.map lower) ↔
      (passed = [] ∨ ∃ d, lowercaseChar dottedCapital = [d]) ∧
        KeepsCase dottedCapital passed s := by
  have hdot : combiningClass dotAbove ≠ 0 := by
    rw [combiningClass_dotAbove]
    decide
  rw [composeAfter_passed (absorbs?_of_composite? composite?_i_dotAbove) hdot]
  by_cases hpassed : passed = []
  · subst hpassed
    have hnext : Shadows dottedCapital [] 'i' [dotAbove] := .dotted
    rw [ih hnext (h.push hdot)]
    exact (and_iff_right (Or.inl rfl)).symm
  · refine iff_of_false (lowercase_ne_of_dotted h hpassed hlt) ?_
    rintro ⟨hnil | ⟨d, hd⟩, -⟩
    · exact hpassed hnil
    · rw [lowercaseChar_dottedCapital] at hd
      cases hd

/-- One step at a character that a starter absorbs. -/
theorem commutes_absorbed (h : IsPassed passed (c :: s))
    (habsorbs : absorbs? starter passed c = some p) :
    (composeAfter starter passed (c :: s)).flatMap lowercaseChar =
      composeAfter (lower starter) passed ((c :: s).map lower) ↔
        KeepsCase starter passed (c :: s) := by
  obtain ⟨hlt, hp⟩ := lt_of_absorbs? h.sorted habsorbs
  rw [List.map_cons, lower_second hp, composeAfter_absorbed habsorbs, keepsCase_absorbed habsorbs]
  by_cases hdotted : p = dottedCapital
  · subst hdotted
    obtain ⟨rfl, rfl⟩ := eq_of_composite?_dottedCapital hp
    have hi : lower 'I' = 'i' := by decide +kernel
    rw [hi]
    exact commutes_dot ih h hlt
  · have hlower : absorbs? (lower starter) passed c = some (lower p) := by
      rw [absorbs?_of_lt hlt]
      exact lower_composite hp hdotted
    rw [composeAfter_absorbed hlower, ih (.plain hdotted) (h.drop hlt)]
    exact (and_iff_right (Or.inr ⟨lower p, lowercaseChar_of_ne hdotted⟩)).symm

end

/-- Lower case and composition commute behind a starter exactly if composing goes alike in both
letter cases. -/
theorem lowercase_composeAfter_iff (hletters : ∀ c ∈ s, IsDecomposed c) : CommutesIfKept s := by
  induction s with
  | nil =>
      intro starter passed starter' passed' hshadows h
      rw [composeAfter, List.flatMap_cons, hshadows.start h, List.map_nil, composeAfter]
      exact iff_of_true rfl trivial
  | cons c s ih =>
      intro starter passed starter' passed' hshadows h
      obtain ⟨hc, hs⟩ := List.forall_mem_cons.1 hletters
      cases hshadows with
      | dotted => exact commutes_dotted (ih hs) h hc
      | plain hstarter =>
          cases habsorbs : absorbs? starter passed c with
          | none => exact commutes_plain (ih hs) hstarter h hc habsorbs
          | some p => exact commutes_absorbed (ih hs) h habsorbs

/-! ### Whole texts -/

/-- Composing a text goes alike in both letter cases. -/
def ComposesAlike : List Char → Prop
  | [] => True
  | c :: s => KeepsCase c [] s

variable (h : IsOrdered s) (hletters : ∀ c ∈ s, IsDecomposed c)
include h hletters

theorem lowercase_compose_iff :
    (compose s).flatMap lowercaseChar = compose (s.map lower) ↔ ComposesAlike s := by
  cases s with
  | nil => exact iff_of_true rfl trivial
  | cons c s =>
      obtain ⟨hc, hs⟩ := List.forall_mem_cons.1 hletters
      exact lowercase_composeAfter_iff hs (.plain hc.ne_dottedCapital)
        (isOrdered_cons.1 h).2.isPassed

/-- The lower case of a composed text takes the form of the text that is composed in lower case. -/
theorem compatibilityForm_lowercase_compose :
    compatibilityForm ((compose s).flatMap lowercaseChar) = compose (s.map lower) := by
  have hlower : ∀ c ∈ s, lowerLetters c = [lower c] := by
    intro c hc
    rw [lowerLetters_of_ne (hletters c hc).ne_dottedCapital,
      (hletters c hc).lowerCase.decomposeChar]
  have hmarks : ∀ c ∈ s, combiningClass c ≠ 0 → lowerLetters c = [c] := by
    intro c hc hclass
    rw [hlower c hc, lower_of_mark hclass]
  have hflat : s.flatMap lowerLetters = s.map lower := by
    rw [List.flatMap_congr hlower, List.map_eq_flatMap]
  have hapart : order ((compose s).flatMap lowerLetters) = s.map lower := by
    rw [order_flatMap_compose takesApart_lowerLetters h hmarks, hflat,
      (isOrdered_map_lower.2 h).order_eq]
  rw [compatibilityForm, decompose, List.flatMap_assoc]
  exact congrArg compose hapart

end PostSearch.Unicode
