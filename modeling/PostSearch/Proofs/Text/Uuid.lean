import Mathlib.Data.List.Induction
import Mathlib.Data.List.SplitLengths
import PostSearch.Proofs.Text.Numeral
import PostSearch.Proofs.Text.Split
import PostSearch.Proofs.Text.Strip
import PostSearch.Uuid

/-! # The form of UUIDs

UUIDs are read leniently, but only what they are written as is canonical: five groups of
hexadecimal digits with hyphens between them (`isCanonical_iff_isHyphenated`), so a digit comes
first (`exists_head?_of_isCanonical`). -/

namespace PostSearch.Uuid

open Text Unicode

variable {width n : Nat} {s : List Char} {c : Char}

/-! ### Digits -/

def digitChars : List Char :=
  "0123456789abcdef".toList

theorem mem_digitChars : c ∈ digitChars ↔ ∃ k < 16, c = Nat.digitChar k := by
  have hchars : digitChars = (List.range 16).map Nat.digitChar := by decide
  simp [hchars, eq_comm]

theorem length_hexDigits (width n : Nat) : (hexDigits width n).length = width := by
  induction width generalizing n with
  | zero => rfl
  | succ width ih => rw [hexDigits, List.length_append, ih, List.length_singleton]

theorem mem_hexDigits (h : c ∈ hexDigits width n) : ∃ k < 16, c = Nat.digitChar k := by
  induction width generalizing n with
  | zero => cases h
  | succ width ih =>
      rw [hexDigits] at h
      rcases List.mem_append.1 h with h | h
      · exact ih h
      · exact ⟨n % 16, Nat.mod_lt _ (by decide), List.mem_singleton.1 h⟩

/-- The last digit is written last, so the induction takes digits from the end. -/
theorem hexDigits_ofDigits {ks : List Nat} (hk : ∀ k ∈ ks, k < 16) :
    hexDigits ks.length (Numeral.ofDigits 16 ks) = ks.map Nat.digitChar := by
  induction ks using List.reverseRecOn with
  | nil => rfl
  | append_singleton ks k ih =>
      have hlast : k < 16 := hk k (by simp)
      have hrest : ∀ k ∈ ks, k < 16 := fun k h => hk k (List.mem_append_left _ h)
      have hvalue : Numeral.ofDigits 16 (ks ++ [k]) = Numeral.ofDigits 16 ks * 16 + k := by
        simp [Numeral.ofDigits]
      have hdiv : (Numeral.ofDigits 16 ks * 16 + k) / 16 = Numeral.ofDigits 16 ks := by omega
      have hmod : (Numeral.ofDigits 16 ks * 16 + k) % 16 = k := by omega
      rw [List.length_append, List.length_singleton, hvalue, hexDigits, hdiv, hmod, ih hrest,
        List.map_append, List.map_singleton]

theorem exists_digits (h : ∀ c ∈ s, c ∈ digitChars) :
    ∃ ks : List Nat, s = ks.map Nat.digitChar ∧ ∀ k ∈ ks, k < 16 := by
  induction s with
  | nil => exact ⟨[], rfl, by simp⟩
  | cons c s ih =>
      obtain ⟨hc, hs⟩ := List.forall_mem_cons.1 h
      obtain ⟨k, hk, rfl⟩ := mem_digitChars.1 hc
      obtain ⟨ks, rfl, hks⟩ := ih hs
      exact ⟨k :: ks, rfl, List.forall_mem_cons.2 ⟨hk, hks⟩⟩

/-! ### Groups -/

def groupLengths : List Nat :=
  [8, 4, 4, 4, 12]

/-- The text is groups of these lengths with hyphens between them, 36 characters in all. -/
def IsHyphenated (s : List Char) : Prop :=
  (splitAt '-' s).map List.length = groupLengths ∧ ∀ c ∈ s, c ≠ '-' → c ∈ digitChars

instance : DecidablePred IsHyphenated := fun s =>
  inferInstanceAs (Decidable (_ ∧ ∀ c ∈ s, c ≠ '-' → c ∈ digitChars))

theorem splitLengths_flatten {α : Type} (groups : List (List α)) :
    (groups.map List.length).splitLengths groups.flatten = groups := by
  induction groups with
  | nil => rfl
  | cons g groups ih =>
      rw [List.map_cons, List.flatten_cons, List.splitLengths_cons, List.take_left,
        List.drop_left, ih]

theorem format_eq (n : Nat) :
    format n = ['-'].intercalate (groupLengths.splitLengths (hexDigits 32 n)) := by
  simp [format, groupLengths, List.intercalate_cons_cons, List.drop_drop]

theorem length_format (n : Nat) : (format n).length = 36 := by
  simp [format, length_hexDigits]

theorem isHyphenated_format (n : Nat) : IsHyphenated (format n) := by
  have hdash : '-' ∉ digitChars := by decide
  have hdigits : ∀ c ∈ hexDigits 32 n, c ∈ digitChars := fun c hc =>
    mem_digitChars.2 (mem_hexDigits hc)
  have hsum : groupLengths.sum = (hexDigits 32 n).length := by
    rw [length_hexDigits]
    rfl
  have hflatten : (groupLengths.splitLengths (hexDigits 32 n)).flatten = hexDigits 32 n :=
    List.flatten_splitLengths _ _ hsum.ge
  have hgroups : ∀ g ∈ groupLengths.splitLengths (hexDigits 32 n), '-' ∉ g := by
    intro g hg hmem
    refine hdash (hdigits '-' ?_)
    rw [← hflatten]
    exact List.mem_flatten_of_mem hg hmem
  have hne : groupLengths.splitLengths (hexDigits 32 n) ≠ [] := by
    simp [groupLengths]
  have hsplit : splitAt '-' (format n) = groupLengths.splitLengths (hexDigits 32 n) := by
    rw [format_eq, splitAt_intercalate hne hgroups]
  constructor
  · rw [hsplit, List.map_splitLengths_length _ _ hsum.le]
  · intro c hc hne
    refine hdigits c ?_
    rw [← hflatten, ← hsplit, flatten_splitAt]
    exact List.mem_filter.2 ⟨hc, by simpa using hne⟩

/-- What the hyphen and the digits are checked for holds of every character. -/
theorem IsHyphenated.forall_mem {p : Char → Prop} (h : IsHyphenated s)
    (hp : ∀ c ∈ '-' :: digitChars, p c) : ∀ c ∈ s, p c := by
  intro c hc
  by_cases hdash : c = '-'
  · exact hp c (hdash ▸ List.mem_cons_self)
  · exact hp c (List.mem_cons_of_mem _ (h.2 c hc hdash))

theorem IsHyphenated.bareDigits (h : IsHyphenated s) :
    bareDigits s = (splitAt '-' s).flatten := by
  have hcolon : ∀ c ∈ s, c ≠ ':' := h.forall_mem (by decide)
  have hword : ':' ∉ s := fun hmem => hcolon ':' hmem rfl
  have hbrace : ∀ c ∈ s, (c == '{' || c == '}') = false := h.forall_mem (by decide)
  unfold Uuid.bareDigits
  rw [without_of_not_mem (by decide) hword, without_of_not_mem (by decide) hword,
    stripWhere_eq_self hbrace, flatten_splitAt]

theorem IsHyphenated.length_flatten (h : IsHyphenated s) : (splitAt '-' s).flatten.length = 32 := by
  rw [List.length_flatten, h.1]
  rfl

/-- Exactly the texts of this form are canonical. -/
theorem isCanonical_iff_isHyphenated : isCanonical s = true ↔ IsHyphenated s := by
  rw [isCanonical_iff]
  constructor
  · rintro ⟨-, n, -, rfl⟩
    exact isHyphenated_format n
  · intro h
    have hdigits : ∀ c ∈ (splitAt '-' s).flatten, c ∈ digitChars := by
      intro c hc
      rw [flatten_splitAt, List.mem_filter] at hc
      exact h.2 c hc.1 (by simpa using hc.2)
    obtain ⟨ks, hks, hlt⟩ := exists_digits hdigits
    have hlength : ks.length = 32 := by
      rw [← h.length_flatten, hks, List.length_map]
    have hne : ks ≠ [] := List.ne_nil_of_length_pos (by omega)
    have hbare : bareDigits s = ks.map Nat.digitChar := h.bareDigits.trans hks
    have hparse : parse s = .ok (Numeral.ofDigits 16 ks) := by
      unfold parse
      simp only [hbare, List.length_map, hlength, if_true, Numeral.readInt_digitChars hne hlt,
        Int.toNat_natCast]
    have hwritten := hexDigits_ofDigits hlt
    rw [hlength, ← hks] at hwritten
    have hformat : format (Numeral.ofDigits 16 ks) = s := by
      rw [format_eq, hwritten, ← h.1, splitLengths_flatten, intercalate_splitAt]
    refine ⟨?_, _, hparse, hformat⟩
    rw [← hformat, length_format]

theorem exists_head?_of_isCanonical (h : isCanonical s = true) :
    ∃ k < 16, s.head? = some (Nat.digitChar k) := by
  obtain ⟨-, n, -, rfl⟩ := isCanonical_iff.1 h
  have hfirst : (hexDigits 32 n).take 8 ≠ [] := by
    rw [← List.length_pos_iff, List.length_take, length_hexDigits]
    decide
  obtain ⟨c, group, hgroup⟩ := List.exists_cons_of_ne_nil hfirst
  have hc : c ∈ (hexDigits 32 n).take 8 := hgroup ▸ List.mem_cons_self
  obtain ⟨k, hk, rfl⟩ := mem_hexDigits (List.mem_of_mem_take hc)
  refine ⟨k, hk, ?_⟩
  simp [format, hgroup]

end PostSearch.Uuid
