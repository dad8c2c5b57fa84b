import Mathlib.Data.List.Basic
import PostSearch.Text.Split

/-! # Pieces of a split text

The pieces give the text back when they are put together with separators between them
(`intercalate_splitAt`). -/

namespace PostSearch.Text

variable {sep c : Char} {s t piece : List Char}

theorem splitAt_sep (sep : Char) (s : List Char) :
    splitAt sep (sep :: s) = [] :: splitAt sep s :=
  if_pos rfl

theorem splitAt_cons (s : List Char) (hc : c ≠ sep) :
    ∃ first rest, splitAt sep s = first :: rest ∧ splitAt sep (c :: s) = (c :: first) :: rest := by
  obtain ⟨first, rest, hs⟩ := List.exists_cons_of_ne_nil (splitAt_ne_nil sep s)
  refine ⟨first, rest, hs, ?_⟩
  rw [splitAt, if_neg hc, hs]

theorem splitAt_of_not_mem (h : sep ∉ s) : splitAt sep s = [s] := by
  induction s with
  | nil => rfl
  | cons c s ih =>
      obtain ⟨hc, hs⟩ := List.ne_and_not_mem_of_not_mem_cons h
      obtain ⟨first, rest, hsplit, hcons⟩ := splitAt_cons s hc.symm
      rw [ih hs] at hsplit
      cases hsplit
      exact hcons

/-- A separator cuts the text, whatever stands on both sides. -/
theorem splitAt_cut (sep : Char) (s t : List Char) :
    splitAt sep (s ++ sep :: t) = splitAt sep s ++ splitAt sep t := by
  induction s with
  | nil => exact splitAt_sep sep t
  | cons c s ih =>
      rw [List.cons_append]
      rcases eq_or_ne c sep with rfl | hc
      · rw [splitAt_sep, splitAt_sep, ih, List.cons_append]
      · obtain ⟨first, rest, hs, hcs⟩ := splitAt_cons s hc
        obtain ⟨first', rest', hst, hcst⟩ := splitAt_cons (s ++ sep :: t) hc
        rw [ih, hs] at hst
        cases hst
        rw [hcs, hcst]
        rfl

theorem splitAt_append (h : sep ∉ s) : splitAt sep (s ++ sep :: t) = s :: splitAt sep t := by
  rw [splitAt_cut, splitAt_of_not_mem h]
  rfl

theorem splitAt_concat (s : List Char) (hc : c ≠ sep) : ∃ before last,
    splitAt sep s = before ++ [last] ∧ splitAt sep (s ++ [c]) = before ++ [last ++ [c]] := by
  induction s with
  | nil => exact ⟨[], [], rfl, if_neg hc⟩
  | cons d s ih =>
      obtain ⟨before, last, hs, hsc⟩ := ih
      rw [List.cons_append]
      rcases eq_or_ne d sep with rfl | hd
      · rw [splitAt_sep, splitAt_sep, hs, hsc]
        exact ⟨[] :: before, last, rfl, rfl⟩
      · obtain ⟨first, rest, hfirst, hds⟩ := splitAt_cons s hd
        obtain ⟨first', rest', hfirst', hdsc⟩ := splitAt_cons (s ++ [c]) hd
        rw [hds, hdsc]
        rw [hs] at hfirst
        rw [hsc] at hfirst'
        cases before with
        | nil =>
            cases hfirst
            cases hfirst'
            exact ⟨[], d :: last, rfl, rfl⟩
        | cons _ before =>
            cases hfirst
            cases hfirst'
            exact ⟨(d :: first) :: before, last, rfl, rfl⟩

theorem intercalate_splitAt (sep : Char) (s : List Char) :
    [sep].intercalate (splitAt sep s) = s := by
  induction s with
  | nil => rfl
  | cons c s ih =>
      rcases eq_or_ne c sep with rfl | hc
      · obtain ⟨first, rest, hs⟩ := List.exists_cons_of_ne_nil (splitAt_ne_nil c s)
        rw [hs] at ih
        rw [splitAt_sep, hs, List.intercalate_cons_cons, ih]
        rfl
      · obtain ⟨first, rest, hs, hcs⟩ := splitAt_cons s hc
        rw [hs] at ih
        rw [hcs]
        cases rest with
        | nil =>
            rw [List.intercalate_singleton] at ih ⊢
            rw [ih]
        | cons second rest =>
            rw [List.intercalate_cons_cons] at ih ⊢
            rw [List.cons_append, List.cons_append, ih]

/-- Texts without separators are cut where they were put together. -/
theorem splitAt_intercalate {pieces : List (List Char)} (hne : pieces ≠ [])
    (h : ∀ piece ∈ pieces, sep ∉ piece) : splitAt sep ([sep].intercalate pieces) = pieces := by
  induction pieces with
  | nil => exact absurd rfl hne
  | cons first rest ih =>
      obtain ⟨hfirst, hrest⟩ := List.forall_mem_cons.1 h
      cases rest with
      | nil => rw [List.intercalate_singleton, splitAt_of_not_mem hfirst]
      | cons second rest =>
          rw [List.intercalate_cons_cons, List.append_assoc, List.singleton_append,
            splitAt_append hfirst, ih (List.cons_ne_nil _ _) hrest]

theorem flatten_splitAt (sep : Char) (s : List Char) :
    (splitAt sep s).flatten = s.filter (· ≠ sep) := by
  induction s with
  | nil => rfl
  | cons c s ih =>
      rcases eq_or_ne c sep with rfl | hc
      · rw [splitAt_sep, List.flatten_cons, List.nil_append, ih, List.filter_cons_of_neg (by simp)]
      · obtain ⟨first, rest, hs, hcs⟩ := splitAt_cons s hc
        rw [hcs, List.filter_cons_of_pos (by simpa using hc), ← ih, hs, List.flatten_cons,
          List.flatten_cons, List.cons_append]

theorem exists_mem_splitAt : (∃ piece ∈ splitAt sep s, c ∈ piece) ↔ c ∈ s ∧ c ≠ sep := by
  rw [← List.mem_flatten, flatten_splitAt, List.mem_filter, decide_eq_true_eq]

/-- Nothing is left out of a text that lacks a character of the word. -/
theorem without_of_not_mem {word : List Char} (hc : c ∈ word) (h : c ∉ s) :
    without word 0 s = s := by
  induction s with
  | nil => rfl
  | cons d s ih =>
      have hprefix : ¬ word.isPrefixOf (d :: s) = true := fun hword =>
        h ((List.isPrefixOf_iff_prefix.1 hword).subset hc)
      rw [without, if_neg hprefix, ih (List.not_mem_of_not_mem_cons h)]

theorem dropFinalNewline_of_not_mem (h : '\n' ∉ s) : dropFinalNewline s = s := by
  induction s with
  | nil => rfl
  | cons c s ih =>
      obtain ⟨hc, hs⟩ := List.ne_and_not_mem_of_not_mem_cons h
      rw [dropFinalNewline, ih hs]
      rintro rfl -
      exact hc rfl

theorem mem_dropFinalNewline (h : c ∈ s) (hc : c ≠ '\n') : c ∈ dropFinalNewline s := by
  fun_induction dropFinalNewline s with
  | case1 => exact h
  | case2 => exact absurd (List.mem_singleton.1 h) hc
  | case3 d s _ ih =>
      rcases List.mem_cons.1 h with rfl | h
      · exact List.mem_cons_self
      · exact List.mem_cons_of_mem _ (ih h)

end PostSearch.Text
