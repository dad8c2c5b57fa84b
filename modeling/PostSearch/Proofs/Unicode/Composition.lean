import Mathlib
import PostSearch.Proofs.Unicode.Letters
import PostSearch.Proofs.Unicode.Ordering

/-! # Composing and taking apart

Composing an ordered text moves nothing that decomposing and ordering does not move back
(`order_flatMap_compose`). That holds of every way to take composites apart: into their letters,
and into the lower case of their letters. -/

namespace PostSearch.Unicode

variable {starter p c d : Char} {passed s : List Char} {image : Char → List Char}

/-! ### One step -/

/-- Composite of a starter and a later character, unless the last of the marks that it passed
blocks it. -/
def absorbs? (starter : Char) (passed : List Char) (c : Char) : Option Char :=
  if passed.head?.any (combiningClass c ≤ combiningClass ·) then none else composite? starter c

theorem composeAfter_cons : composeAfter starter passed (c :: s) =
    match absorbs? starter passed c with
    | some p => composeAfter p passed s
    | none =>
      if combiningClass c = 0 then starter :: passed.reverse ++ composeAfter c [] s
      else composeAfter starter (c :: passed) s := by
  cases passed <;> rfl

theorem composeAfter_absorbed (h : absorbs? starter passed c = some p) :
    composeAfter starter passed (c :: s) = composeAfter p passed s := by
  rw [composeAfter_cons, h]

theorem composeAfter_starter (h : absorbs? starter passed c = none) (hc : combiningClass c = 0) :
    composeAfter starter passed (c :: s) = starter :: passed.reverse ++ composeAfter c [] s := by
  rw [composeAfter_cons, h]
  exact if_pos hc

theorem composeAfter_passed (h : absorbs? starter passed c = none) (hc : combiningClass c ≠ 0) :
    composeAfter starter passed (c :: s) = composeAfter starter (c :: passed) s := by
  rw [composeAfter_cons, h]
  exact if_neg hc

theorem absorbs?_of_composite? (h : composite? starter c = none) :
    absorbs? starter passed c = none := by
  unfold absorbs?
  rw [h, ite_self]

theorem composite?_of_absorbs? (h : absorbs? starter passed c = some p) :
    composite? starter c = some p := by
  unfold absorbs? at h
  split at h
  · cases h
  · exact h

@[elab_as_elim]
theorem composeAfter_induction {motive : Char → List Char → List Char → Prop}
    (nil : ∀ starter passed, motive starter passed [])
    (absorbed : ∀ starter passed c s p, absorbs? starter passed c = some p →
      motive p passed s → motive starter passed (c :: s))
    (next : ∀ starter passed c s, absorbs? starter passed c = none → combiningClass c = 0 →
      motive c [] s → motive starter passed (c :: s))
    (pass : ∀ starter passed c s, absorbs? starter passed c = none → combiningClass c ≠ 0 →
      motive starter (c :: passed) s → motive starter passed (c :: s))
    (starter : Char) (passed s : List Char) : motive starter passed s := by
  induction s generalizing starter passed with
  | nil => exact nil starter passed
  | cons c s ih =>
      cases habsorbs : absorbs? starter passed c with
      | some p => exact absorbed _ _ _ _ p habsorbs (ih p passed)
      | none =>
          by_cases hc : combiningClass c = 0
          · exact next _ _ _ _ habsorbs hc (ih c [])
          · exact pass _ _ _ _ habsorbs hc (ih starter (c :: passed))

/-- What holds of the characters of a text and goes from a character to its composites holds of
the composed text. -/
theorem forall_composeAfter {P : Char → Prop}
    (hcomposite : ∀ f c p, composite? f c = some p → P f → P p) (hstarter : P starter)
    (hpassed : ∀ d ∈ passed, P d) (hs : ∀ c ∈ s, P c) :
    ∀ c ∈ composeAfter starter passed s, P c := by
  induction starter, passed, s using composeAfter_induction with
  | nil starter passed =>
      exact List.forall_mem_cons.2 ⟨hstarter, fun d hd => hpassed d (List.mem_reverse.1 hd)⟩
  | absorbed starter passed c s p habsorbs ih =>
      obtain ⟨-, hs⟩ := List.forall_mem_cons.1 hs
      rw [composeAfter_absorbed habsorbs]
      exact ih (hcomposite _ _ _ (composite?_of_absorbs? habsorbs) hstarter) hpassed hs
  | next starter passed c s hnone hclass ih =>
      obtain ⟨hc, hs⟩ := List.forall_mem_cons.1 hs
      rw [composeAfter_starter hnone hclass, List.forall_mem_append]
      refine ⟨List.forall_mem_cons.2 ⟨hstarter, fun d hd => hpassed d (List.mem_reverse.1 hd)⟩, ?_⟩
      exact ih hc (List.forall_mem_nil _) hs
  | pass starter passed c s hnone hclass ih =>
      obtain ⟨hc, hs⟩ := List.forall_mem_cons.1 hs
      rw [composeAfter_passed hnone hclass]
      exact ih hstarter (List.forall_mem_cons.2 ⟨hc, hpassed⟩) hs

/-! ### Passed marks -/

/-- The marks that a starter passed (last first) and the ordered text behind them. -/
structure IsPassed (passed s : List Char) : Prop where
  marks : ∀ d ∈ passed, 0 < combiningClass d
  sorted : passed.Pairwise fun a b => combiningClass b ≤ combiningClass a
  rest : IsOrdered s
  next : ∀ c ∈ s.head?, combiningClass c = 0 ∨ ∀ d ∈ passed, combiningClass d ≤ combiningClass c

theorem IsOrdered.isPassed (h : IsOrdered s) : IsPassed [] s :=
  ⟨nofun, List.Pairwise.nil, h, fun _ _ => Or.inr nofun⟩

theorem IsPassed.tail (h : IsPassed passed (c :: s)) : IsPassed [] s :=
  (isOrdered_cons.1 h.rest).2.isPassed

/-- A mark that is passed goes to the passed marks. -/
theorem IsPassed.push (h : IsPassed passed (c :: s)) (hc : combiningClass c ≠ 0) :
    IsPassed (c :: passed) s := by
  have hle := (h.next c rfl).resolve_left hc
  obtain ⟨hhead, hrest⟩ := isOrdered_cons.1 h.rest
  refine ⟨?_, List.pairwise_cons.2 ⟨hle, h.sorted⟩, hrest, fun e he => ?_⟩
  · exact List.forall_mem_cons.2 ⟨Nat.pos_of_ne_zero hc, h.marks⟩
  · rcases hhead e he with hzero | hce
    · exact Or.inl hzero
    · exact Or.inr (List.forall_mem_cons.2 ⟨hce, fun d hd => (hle d hd).trans hce⟩)

/-- A character that is absorbed is gone. -/
theorem IsPassed.drop (h : IsPassed passed (c :: s))
    (hc : ∀ d ∈ passed, combiningClass d < combiningClass c) : IsPassed passed s := by
  obtain ⟨hhead, hrest⟩ := isOrdered_cons.1 h.rest
  refine ⟨h.marks, h.sorted, hrest, fun e he => ?_⟩
  rcases hhead e he with hzero | hce
  · exact Or.inl hzero
  · exact Or.inr fun d hd => ((hc d hd).le).trans hce

theorem absorbs?_of_lt (h : ∀ d ∈ passed, combiningClass d < combiningClass c) :
    absorbs? starter passed c = composite? starter c := by
  refine if_neg fun hblocked => ?_
  obtain ⟨d, hd, hle⟩ := (Option.any_eq_true _ _).1 hblocked
  have := h d (List.mem_of_mem_head? (Option.mem_def.2 hd))
  have := of_decide_eq_true hle
  omega

/-- The passed marks block a character or have smaller classes. -/
theorem absorbs?_cases (h : passed.Pairwise fun a b => combiningClass b ≤ combiningClass a)
    (c : Char) :
    (∀ starter, absorbs? starter passed c = none) ∨
      ∀ d ∈ passed, combiningClass d < combiningClass c := by
  cases passed with
  | nil => exact Or.inr nofun
  | cons e passed =>
      obtain ⟨hle, -⟩ := List.pairwise_cons.1 h
      by_cases hblocked : combiningClass c ≤ combiningClass e
      · exact Or.inl fun _ => if_pos (decide_eq_true hblocked)
      · have hlt := Nat.lt_of_not_le hblocked
        exact Or.inr (List.forall_mem_cons.2 ⟨hlt, fun d hd => (hle d hd).trans_lt hlt⟩)

theorem lt_of_absorbs? (h : passed.Pairwise fun a b => combiningClass b ≤ combiningClass a)
    (hc : absorbs? starter passed c = some p) :
    (∀ d ∈ passed, combiningClass d < combiningClass c) ∧ composite? starter c = some p := by
  rcases absorbs?_cases h c with hnone | hlt
  · rw [hnone] at hc
    cases hc
  · exact ⟨hlt, composite?_of_absorbs? hc⟩

/-! ### Taking apart -/

/-- The map takes a composite apart into what its first character is taken apart into and its
second character. -/
structure TakesApart (image : Char → List Char) : Prop where
  composite : ∀ {f s p}, composite? f s = some p → image p = image f ++ [s]
  second : ∀ {f s p}, composite? f s = some p → image s = [s]

theorem flatMap_eq_self (h : ∀ c ∈ s, image c = [c]) : s.flatMap image = s := by
  rw [List.flatMap_congr h, List.flatMap_singleton']

/-- What composing moves in front of passed marks, ordering moves back. -/
theorem order_flatMap_composeAfter (himage : TakesApart image) (h : IsPassed passed s)
    (hmarks : ∀ c ∈ passed ++ s, combiningClass c ≠ 0 → image c = [c]) :
    order ((composeAfter starter passed s).flatMap image) =
      order (image starter ++ (passed.reverse ++ s).flatMap image) := by
  induction starter, passed, s using composeAfter_induction with
  | nil starter passed => rw [composeAfter, List.flatMap_cons, List.append_nil]
  | absorbed starter passed c s p habsorbs ih =>
      obtain ⟨hlt, hp⟩ := lt_of_absorbs? h.sorted habsorbs
      have hflat : passed.reverse.flatMap image = passed.reverse := by
        refine flatMap_eq_self fun d hd => ?_
        have hd := List.mem_reverse.1 hd
        exact hmarks d (List.mem_append_left _ hd) (h.marks d hd).ne'
      have hrest : ∀ d ∈ passed ++ s, combiningClass d ≠ 0 → image d = [d] := by
        refine fun d hd => hmarks d ?_
        rcases List.mem_append.1 hd with hd | hd
        · exact List.mem_append_left _ hd
        · exact List.mem_append_right _ (List.mem_cons_of_mem _ hd)
      have hmove : ∀ d ∈ passed.reverse,
          0 < combiningClass d ∧ combiningClass d < combiningClass c :=
        fun d hd => ⟨h.marks d (List.mem_reverse.1 hd), hlt d (List.mem_reverse.1 hd)⟩
      rw [composeAfter_absorbed habsorbs, ih (h.drop hlt) hrest, himage.composite hp,
        List.flatMap_append, List.flatMap_append, List.flatMap_cons, himage.second hp, hflat,
        List.append_assoc]
      exact order_append_congr (order_move hmove)
  | next starter passed c s hnone hc ih =>
      have hrest : ∀ d ∈ [] ++ s, combiningClass d ≠ 0 → image d = [d] := fun d hd =>
        hmarks d (List.mem_append_right _ (List.mem_cons_of_mem _ hd))
      rw [composeAfter_starter hnone hc, List.cons_append, List.flatMap_cons,
        List.flatMap_append, List.flatMap_append, List.flatMap_cons]
      exact order_append_congr (order_append_congr (ih h.tail hrest))
  | pass starter passed c s hnone hc ih =>
      have hrest : ∀ d ∈ c :: passed ++ s, combiningClass d ≠ 0 → image d = [d] := by
        refine fun d hd => hmarks d ?_
        simp only [List.cons_append, List.mem_cons, List.mem_append] at hd ⊢
        tauto
      rw [composeAfter_passed hnone hc, ih (h.push hc) hrest, List.reverse_cons,
        List.append_assoc, List.singleton_append]

theorem order_flatMap_compose (himage : TakesApart image) (h : IsOrdered s)
    (hmarks : ∀ c ∈ s, combiningClass c ≠ 0 → image c = [c]) :
    order ((compose s).flatMap image) = order (s.flatMap image) := by
  cases s with
  | nil => rfl
  | cons c s =>
      have hrest := (isOrdered_cons.1 h).2
      exact order_flatMap_composeAfter himage hrest.isPassed fun d hd =>
        hmarks d (List.mem_cons_of_mem _ hd)

/-- A composed text begins with its starter and what the starter absorbed. -/
theorem exists_head (starter : Char) (h : IsPassed passed s) :
    ∃ p t marks, composeAfter starter passed s = p :: t ∧
      (∀ image, TakesApart image → image p = image starter ++ marks) ∧
        ∀ m ∈ marks, ∀ d ∈ passed, combiningClass d < combiningClass m := by
  induction starter, passed, s using composeAfter_induction with
  | nil starter passed =>
      exact ⟨starter, passed.reverse, [], rfl, fun _ _ => (List.append_nil _).symm, nofun⟩
  | absorbed starter passed c s p habsorbs ih =>
      obtain ⟨hlt, hp⟩ := lt_of_absorbs? h.sorted habsorbs
      obtain ⟨q, t, marks, hq, himage, hmarks⟩ := ih (h.drop hlt)
      refine ⟨q, t, c :: marks, ?_, fun image h => ?_, List.forall_mem_cons.2 ⟨hlt, hmarks⟩⟩
      · rw [composeAfter_absorbed habsorbs, hq]
      · rw [himage image h, h.composite hp, List.append_assoc, List.singleton_append]
  | next starter passed c s hnone hc ih =>
      exact ⟨starter, _, [], composeAfter_starter hnone hc,
        fun _ _ => (List.append_nil _).symm, nofun⟩
  | pass starter passed c s hnone hc ih =>
      obtain ⟨q, t, marks, hq, himage, hmarks⟩ := ih (h.push hc)
      refine ⟨q, t, marks, ?_, himage, fun m hm d hd => ?_⟩
      · rw [composeAfter_passed hnone hc, hq]
      · exact hmarks m hm d (List.mem_cons_of_mem _ hd)

/-! ### Letters and their lower case -/

theorem isDecomposed_second {f s p : Char} (h : composite? f s = some p) : IsDecomposed s := by
  refine isDecomposed_of_mem (c := p) ?_
  rw [decomposeChar_composite h]
  exact List.mem_append_right _ (List.mem_singleton.2 rfl)

theorem takesApart_decomposeChar : TakesApart decomposeChar :=
  ⟨decomposeChar_composite, fun h => (isDecomposed_second h).decomposeChar⟩

/-- A composed text is its own compatibility form. -/
theorem compatibilityForm_compose (h : IsOrdered s) (hletters : ∀ c ∈ s, IsDecomposed c) :
    compatibilityForm (compose s) = compose s := by
  have hmarks : ∀ c ∈ s, combiningClass c ≠ 0 → decomposeChar c = [c] :=
    fun c hc _ => (hletters c hc).decomposeChar
  rw [compatibilityForm, decompose, order_flatMap_compose takesApart_decomposeChar h hmarks,
    flatMap_eq_self fun c hc => (hletters c hc).decomposeChar, h.order_eq]

theorem isDecomposed_of_mem_order (h : c ∈ order (decompose s)) : IsDecomposed c := by
  obtain ⟨d, -, hc⟩ := List.mem_flatMap.1 ((order_perm _).mem_iff.1 h)
  exact isDecomposed_of_mem hc

/-- Letters of the lower case of a character. -/
def lowerLetters (c : Char) : List Char :=
  (lowercaseChar c).flatMap decomposeChar

theorem lowerLetters_of_ne (h : c ≠ dottedCapital) : lowerLetters c = decomposeChar (lower c) := by
  rw [lowerLetters, lowercaseChar_of_ne h, List.flatMap_singleton]

theorem takesApart_lowerLetters : TakesApart lowerLetters := by
  refine ⟨fun {f s p} h => ?_, fun {f s p} h => ?_⟩
  · by_cases hp : p = dottedCapital
    · subst hp
      obtain ⟨rfl, rfl⟩ := eq_of_composite?_dottedCapital h
      decide +kernel
    · have hf : f ≠ dottedCapital := by
        rintro rfl
        rw [composite?_dottedCapital] at h
        cases h
      rw [lowerLetters_of_ne hp, lowerLetters_of_ne hf,
        decomposeChar_composite (lower_composite h hp)]
  · have hs := isDecomposed_second h
    rw [lowerLetters_of_ne hs.ne_dottedCapital, lower_second h, hs.decomposeChar]

end PostSearch.Unicode
