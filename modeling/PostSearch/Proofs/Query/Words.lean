import PostSearch.Proofs.Text.Strip
import PostSearch.Query.Word

/-! # The word in a text

A text that has letters or numerals has one word, from the first of them to the last one
(`exists_isWordOf`, `core_eq`). Trimming keeps this word, with a star behind it if one was asked
for and the word is long enough (`trim_eq`). The star is no part of the word, so trimming finds the
same word when it is done again (`trim_trim`). -/

namespace PostSearch.Query

open Unicode

variable {n : Int} {s w : List Char} {c : Char}

def IsWord (w : List Char) : Prop :=
  (∃ c ∈ w.head?, isAlphanumeric c = true) ∧ ∃ c ∈ w.getLast?, isAlphanumeric c = true

/-- `w` is the part of `s` from its first to its last letter or numeral. -/
def IsWordOf (w s : List Char) : Prop :=
  IsWord w ∧ ∃ before after, s = before ++ w ++ after ∧ (∀ c ∈ before, isAlphanumeric c = false) ∧
    ∀ c ∈ after, isAlphanumeric c = false

/-! ### Letters, blanks and stars -/

theorem isAlphanumeric_of_isBlank (h : isBlank c = true) : isAlphanumeric c = false := by
  have htable : ∀ r ∈ blankRanges, ∀ k < r.last + 1 - r.first,
      inRanges (r.first + k) alphanumericRanges = false := by
    decide +kernel
  obtain ⟨r, hr⟩ := Option.isSome_iff_exists.1 h
  obtain ⟨hmem, hfirst, hlast⟩ := rangeOf?_some hr
  have := htable r hmem (c.toNat - r.first) (by omega)
  rwa [Nat.add_sub_cancel' hfirst] at this

theorem isBlank_of_isAlphanumeric (h : isAlphanumeric c = true) : isBlank c = false := by
  refine Bool.eq_false_iff.2 fun hblank => ?_
  rw [isAlphanumeric_of_isBlank hblank] at h
  cases h

theorem isAlphanumeric_star : isAlphanumeric '*' = false := by
  decide +kernel

/-! ### What is left of a text -/

theorem IsWord.ne_nil (h : IsWord w) : w ≠ [] := by
  rintro rfl
  obtain ⟨⟨c, hc, -⟩, -⟩ := h
  cases hc

/-- A word is stripped of nothing but letters and numerals, and what stands around it is stripped
if it can be. -/
theorem IsWord.stripWhere_eq {p : Char → Bool} (h : IsWord w)
    (hletter : ∀ c, isAlphanumeric c = true → p c = false) {before after : List Char}
    (hbefore : ∀ c ∈ before, p c = true) (hafter : ∀ c ∈ after, p c = true) :
    stripWhere p (before ++ w ++ after) = w := by
  obtain ⟨⟨a, hfirst, ha⟩, b, hlast, hb⟩ := h
  refine stripWhere_between hbefore hafter (IsWord.ne_nil ⟨⟨a, hfirst, ha⟩, b, hlast, hb⟩) ?_ ?_
  · intro c hc
    cases hfirst.symm.trans hc
    exact hletter a ha
  · intro c hc
    cases hlast.symm.trans hc
    exact hletter b hb

theorem core_eq_nil : core s = [] ↔ ∀ c ∈ s, isAlphanumeric c = false := by
  rw [core, stripWhere_eq_nil]
  simp only [Bool.not_eq_true']

/-- What is left of a text is its word. -/
theorem isWordOf_core (h : core s ≠ []) : IsWordOf (core s) s := by
  obtain ⟨hfirst, hlast⟩ := stripWhere_ends (fun c => !isAlphanumeric c) s
  obtain ⟨before, after, hs, hbefore, hafter⟩ := exists_stripWhere (fun c => !isAlphanumeric c) s
  simp only [Bool.not_eq_true', Bool.not_eq_false'] at hfirst hlast hbefore hafter
  refine ⟨⟨⟨(core s).head h, ?_, ?_⟩, (core s).getLast h, ?_, ?_⟩, before, after, hs, hbefore,
    hafter⟩
  · exact List.head?_eq_some_head h
  · exact hfirst _ (List.head?_eq_some_head h)
  · exact List.getLast?_eq_getLast_of_ne_nil h
  · exact hlast _ (List.getLast?_eq_getLast_of_ne_nil h)

/-- A text has but one word. -/
theorem core_eq (h : IsWordOf w s) : core s = w := by
  obtain ⟨hw, before, after, rfl, hbefore, hafter⟩ := h
  refine hw.stripWhere_eq (fun c hc => ?_) (fun c hc => ?_) fun c hc => ?_
  · rw [hc]
    rfl
  · rw [hbefore c hc]
    rfl
  · rw [hafter c hc]
    rfl

/-- A text with a letter or a numeral has a word. -/
theorem exists_isWordOf (h : ∃ c ∈ s, isAlphanumeric c = true) : ∃ w, IsWordOf w s := by
  refine ⟨core s, isWordOf_core fun hnil => ?_⟩
  obtain ⟨c, hc, hletter⟩ := h
  rw [core_eq_nil.1 hnil c hc] at hletter
  cases hletter

/-- A word is the word of itself, whatever stands behind it that is no letter. -/
theorem IsWord.isWordOf_append (h : IsWord w) {after : List Char}
    (hafter : ∀ c ∈ after, isAlphanumeric c = false) : IsWordOf w (w ++ after) :=
  ⟨h, [], after, rfl, fun _ hc => absurd hc List.not_mem_nil, hafter⟩

/-! ### Trimming -/

theorem trim_eq_nil (h : ∀ c ∈ s, isAlphanumeric c = false) : trim n s = [] := by
  unfold trim
  rw [if_neg fun hstar => hstar.2.1 (core_eq_nil.2 h), core_eq_nil.2 h]

/-- Trimming keeps the word of a text; a star at the end of the text stays behind a word that is long
enough. -/
theorem trim_eq (h : IsWordOf w s) : trim n s =
    if (strip s).getLast? = some '*' ∧ n ≤ w.length then w ++ ['*'] else w := by
  have hne : w ≠ [] := h.1.ne_nil
  simp only [trim, hasStar, core_eq h, beq_iff_eq, ne_eq, hne, not_false_eq_true, true_and]

/-- Trimming leaves nothing, a word, or a long enough word with a star behind it. -/
theorem trim_cases (n : Int) (s : List Char) : trim n s = [] ∨
    ∃ w, IsWord w ∧ (trim n s = w ∨ trim n s = w ++ ['*'] ∧ n ≤ w.length) := by
  by_cases h : ∃ c ∈ s, isAlphanumeric c = true
  · obtain ⟨w, hw⟩ := exists_isWordOf h
    refine Or.inr ⟨w, hw.1, ?_⟩
    rw [trim_eq hw]
    split
    · rename_i hstar
      exact Or.inr ⟨rfl, hstar.2⟩
    · exact Or.inl rfl
  · refine Or.inl (trim_eq_nil fun c hc => ?_)
    exact Bool.eq_false_iff.2 fun hletter => h ⟨c, hc, hletter⟩

theorem IsWord.getLast?_ne (h : IsWord w) : w.getLast? ≠ some '*' := by
  obtain ⟨-, c, hlast, hc⟩ := h
  intro hstar
  cases hlast.symm.trans hstar
  rw [isAlphanumeric_star] at hc
  cases hc

theorem trim_word (h : IsWord w) : trim n w = w := by
  have hword : IsWordOf w (w ++ []) := h.isWordOf_append fun _ hc => absurd hc List.not_mem_nil
  have hstrip : strip ([] ++ w ++ []) = w :=
    h.stripWhere_eq (fun _ => isBlank_of_isAlphanumeric) (fun _ hc => absurd hc List.not_mem_nil)
      fun _ hc => absurd hc List.not_mem_nil
  rw [List.append_nil] at hword
  rw [List.nil_append, List.append_nil] at hstrip
  rw [trim_eq hword, hstrip, if_neg fun hstar => h.getLast?_ne hstar.1]

theorem trim_star (h : IsWord w) (hlength : n ≤ w.length) :
    trim n (w ++ ['*']) = w ++ ['*'] := by
  have hne : w ≠ [] := h.ne_nil
  have hword : IsWordOf w (w ++ ['*']) := h.isWordOf_append fun c hc => by
    rw [List.mem_singleton.1 hc, isAlphanumeric_star]
  have hstrip : strip ([] ++ (w ++ ['*']) ++ []) = w ++ ['*'] := by
    refine stripWhere_between (fun _ hc => absurd hc List.not_mem_nil)
      (fun _ hc => absurd hc List.not_mem_nil) (List.append_ne_nil_of_left_ne_nil hne _) ?_ ?_
    · obtain ⟨⟨a, hfirst, ha⟩, -⟩ := h
      intro c hc
      rw [List.head?_append_of_ne_nil _ hne] at hc
      cases hfirst.symm.trans hc
      exact isBlank_of_isAlphanumeric ha
    · rw [List.getLast?_concat]
      rintro c ⟨⟩
      decide
  rw [List.nil_append, List.append_nil] at hstrip
  rw [trim_eq hword, hstrip, List.getLast?_concat, if_pos ⟨rfl, hlength⟩]

/-- Trimming again changes nothing. -/
theorem trim_trim (n : Int) (s : List Char) : trim n (trim n s) = trim n s := by
  rcases trim_cases n s with h | ⟨w, hw, h | ⟨h, hlength⟩⟩
  · rw [h]
    exact trim_eq_nil fun _ hc => absurd hc List.not_mem_nil
  · rw [h]
    exact trim_word hw
  · rw [h]
    exact trim_star hw hlength

end PostSearch.Query
