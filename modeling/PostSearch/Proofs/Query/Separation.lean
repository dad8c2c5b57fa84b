import PostSearch.Proofs.Query.Contents
import PostSearch.Proofs.Query.Cutting
import PostSearch.Proofs.Text.Strip
import PostSearch.Query.StemLength

/-! # Texts apart

A scanner that meets no quote never reaches over a blank, so what it finds in a text stays the same
when a blank and another text follow (`KeepsBefore`). Every text but blanks has a lexeme
(`lexeme?_isSome`), and so nothing of the first text is left for the second one.

Main statement: a text without quotes, a blank and a second text have the lexemes, and the tokens,
of the first text and then those of the second (`scan_append_blank`). -/

namespace PostSearch.Query

open Unicode

variable {α β : Type} {s t rest : List Char} {c : Char} {n : Int}

/-! ### Scanners in front of a blank -/

/-- In front of `rest` the scanner finds in a text without quotes what it finds in the text
alone. -/
def KeepsBefore (rest : List Char) (f : List Char → Option (α × List Char)) : Prop :=
  ∀ s, '"' ∉ s → f (s ++ rest) = (f s).map fun (a, left) => (a, left ++ rest)

theorem takeWhile_append_stop {p : Char → Bool} (h : ∀ c ∈ rest.head?, p c = false) :
    (s ++ rest).takeWhile p = s.takeWhile p := by
  induction s with
  | nil =>
      cases rest with
      | nil => rfl
      | cons c rest => exact List.takeWhile_cons_of_neg (by simp [h c rfl])
  | cons c s ih => rw [List.cons_append, List.takeWhile_cons, List.takeWhile_cons, ih]

theorem dropWhile_append_stop {p : Char → Bool} (h : ∀ c ∈ rest.head?, p c = false) :
    (s ++ rest).dropWhile p = s.dropWhile p ++ rest := by
  induction s with
  | nil =>
      cases rest with
      | nil => rfl
      | cons c rest => exact List.dropWhile_cons_of_neg (by simp [h c rfl])
  | cons c s ih =>
      rw [List.cons_append, List.dropWhile_cons, List.dropWhile_cons, ih]
      split <;> rfl

theorem KeepsBefore.map {f : List Char → Option (α × List Char)} (hf : KeepsBefore rest f)
    (g : α → β) : KeepsBefore rest fun s => (f s).map fun (a, left) => (g a, left) := by
  intro s hs
  show (f (s ++ rest)).map _ = ((f s).map _).map _
  rw [hf s hs, Option.map_map, Option.map_map]
  rfl

theorem keepsBefore_word (hr : EndsWord rest) : KeepsBefore rest word? := by
  have hstop : ∀ c ∈ rest.head?, (!isBlank c) = false := fun c hc => by rw [hr c hc]; rfl
  intro s _
  unfold word? takeWord
  rw [takeWhile_append_stop hstop, dropWhile_append_stop hstop]
  cases s.takeWhile (!isBlank ·) <;> rfl

theorem keepsBefore_body (hr : EndsWord rest) : KeepsBefore rest body? := by
  have hword : ∀ {s : List Char}, s.head? ≠ some '"' → body? s = word? s := by
    intro s hs
    unfold body?
    split
    · exact absurd rfl hs
    · rfl
  intro s hs
  have hhead : s.head? ≠ some '"' := fun h => hs (List.mem_of_head? h)
  have hhead' : (s ++ rest).head? ≠ some '"' := by
    cases s with
    | nil => exact fun h => absurd (hr _ h) (by decide)
    | cons c s => exact hhead
  rw [hword hhead, hword hhead']
  exact keepsBefore_word hr s hs

theorem keepsBefore_unnamed (hr : EndsWord rest) : KeepsBefore rest unnamed? :=
  (keepsBefore_body hr).map fun body => (none, body)

/-- A name is one in front of a blank if it is one alone: what comes after its colon decides. -/
theorem keepsBefore_named (hr : EndsWord rest) : KeepsBefore rest named? := by
  have hstop : ∀ c ∈ rest.head?, isNameChar c = false := fun c hc => isNameChar_of_isBlank (hr c hc)
  intro s hs
  have hunnamed := keepsBefore_unnamed hr s hs
  by_cases hcolon : (s.dropWhile isNameChar).head? = some ':'
  · obtain ⟨t, ht⟩ : ∃ t, s.dropWhile isNameChar = ':' :: t := List.head?_eq_some_iff.1 hcolon
    have hmem : '"' ∉ t := fun h => hs ((List.dropWhile_sublist isNameChar).subset (by
      rw [ht]
      exact List.mem_cons_of_mem _ h))
    unfold named?
    rw [takeWhile_append_stop hstop, dropWhile_append_stop hstop, ht]
    cases s.takeWhile isNameChar with
    | nil => exact hunnamed
    | cons c name =>
        simp only [List.cons_append, keepsBefore_body hr t hmem]
        cases body? t with
        | none => exact hunnamed
        | some found => rfl
  · have hcolon' : ((s ++ rest).dropWhile isNameChar).head? ≠ some ':' := by
      rw [dropWhile_append_stop hstop]
      cases hd : s.dropWhile isNameChar with
      | nil => exact fun h => absurd (hr _ h) (by decide)
      | cons c d =>
          rw [hd] at hcolon
          exact hcolon
    rw [named?_of_ne_colon hcolon, named?_of_ne_colon hcolon', hunnamed]

theorem keepsBefore_signed (hr : EndsWord rest) (excluded : Bool) :
    KeepsBefore rest (signed? excluded) :=
  (keepsBefore_named hr).map fun p => Lexeme.term excluded p.1 p.2

/-- A lexeme in front of a blank is what it is alone. -/
theorem keepsBefore_lexeme (hr : EndsWord rest) (hne : s ≠ []) (hs : '"' ∉ s) :
    lexeme? (s ++ rest) = (lexeme? s).map fun (l, left) => (l, left ++ rest) := by
  obtain ⟨c, t, rfl⟩ := List.exists_cons_of_ne_nil hne
  have hsigned := keepsBefore_signed hr false _ hs
  have ht : '"' ∉ t := fun h => hs (List.mem_cons_of_mem _ h)
  rw [List.cons_append] at hsigned ⊢
  unfold lexeme?
  split
  · rename_i h
    cases h
    rfl
  · rename_i h
    cases h
    rfl
  · rename_i hpipe hplus
    split
    · rename_i h
      cases h
      exact absurd rfl (hpipe _)
    · rename_i h
      cases h
      exact absurd rfl (hplus _)
    · unfold term?
      split
      · rename_i h
        cases h
        simp only [keepsBefore_signed hr true t ht]
        cases signed? true t with
        | none => exact hsigned
        | some found => rfl
      · rename_i hminus
        split
        · rename_i h
          cases h
          exact absurd rfl (hminus _)
        · exact hsigned

/-! ### Every text has a lexeme -/

theorem word?_isSome (hc : isBlank c = false) : (word? (c :: s)).isSome := by
  unfold word? takeWord
  rw [List.takeWhile_cons, hc]
  rfl

theorem body?_isSome (hc : isBlank c = false) : (body? (c :: s)).isSome := by
  unfold body?
  split
  · split
    · rfl
    · exact word?_isSome hc
  · exact word?_isSome hc

theorem signed?_isSome (hc : isBlank c = false) (excluded : Bool) :
    (signed? excluded (c :: s)).isSome := by
  have hunnamed : (unnamed? (c :: s)).isSome := by
    rw [unnamed?, Option.isSome_map]
    exact body?_isSome hc
  rw [signed?, Option.isSome_map]
  unfold named?
  split
  · split
    · rfl
    · exact hunnamed
  · exact hunnamed

theorem lexeme?_isSome (hc : isBlank c = false) : (lexeme? (c :: s)).isSome := by
  unfold lexeme?
  split
  · rfl
  · rfl
  · unfold term?
    split
    · split
      · rfl
      · exact signed?_isSome hc false
    · exact signed?_isSome hc false

/-- A text without a lexeme at its start has nothing but blanks. -/
theorem dropWhile_isBlank_eq_nil (h : lexeme? (s.dropWhile isBlank) = none) :
    s.dropWhile isBlank = [] := by
  cases hd : s.dropWhile isBlank with
  | nil => rfl
  | cons c t =>
      have hc : isBlank c = false := head?_dropWhile isBlank s c (by rw [hd]; rfl)
      rw [hd] at h
      have := lexeme?_isSome (s := t) hc
      rw [h] at this
      cases this

/-! ### Two texts -/

theorem lexemes_dropWhile (s : List Char) : lexemes (s.dropWhile isBlank) = lexemes s := by
  rw [lexemes_eq, List.dropWhile_idempotent, ← lexemes_eq]

/-- A text without quotes and one that goes on with a blank have the lexemes of both. -/
theorem lexemes_append (hs : '"' ∉ s) (hr : EndsWord rest) :
    lexemes (s ++ rest) = lexemes s ++ lexemes rest := by
  fun_induction lexemes s with
  | case1 s hnone =>
      have hd := dropWhile_isBlank_eq_nil hnone
      rw [List.nil_append, ← lexemes_dropWhile, List.dropWhile_append, hd, List.isEmpty_nil,
        if_pos rfl, lexemes_dropWhile]
  | case2 s l left hl ih =>
      have hne : s.dropWhile isBlank ≠ [] := by
        intro hd
        rw [hd] at hl
        cases hl
      have hquote : '"' ∉ s.dropWhile isBlank := fun h =>
        hs ((List.dropWhile_sublist isBlank).subset h)
      have hleft : '"' ∉ left := fun h => hquote (by
        rw [cuts_lexeme _ _ _ hl]
        exact List.mem_append_right _ h)
      have hstart : ∀ c ∈ (s.dropWhile isBlank ++ rest).head?, isBlank c = false := by
        rw [List.head?_append_of_ne_nil _ hne]
        exact head?_dropWhile isBlank s
      have hfirst : lexeme? (s.dropWhile isBlank ++ rest) = some (l, left ++ rest) := by
        rw [keepsBefore_lexeme hr hne hquote, hl]
        rfl
      rw [← lexemes_dropWhile, List.dropWhile_append, if_neg (by simpa using hne),
        lexemes_eq_cons hstart hfirst, ih hleft, List.cons_append]

theorem endsWord_blank (hc : isBlank c = true) : EndsWord (c :: t) := by
  rintro d ⟨⟩
  exact hc

/-! ### Tokens of two lists of lexemes -/

/-- The tokens of two lists of lexemes are those of the first and then those of the second; the
first failure wins, whatever is given for the length of the shortest stem. -/
theorem lexemesTokensWith_append (minStem : Datum) (ls ls' : List Lexeme) :
    lexemesTokensWith minStem (ls ++ ls') = do
      let us ← lexemesTokensWith minStem ls
      let vs ← lexemesTokensWith minStem ls'
      return us ++ vs := by
  unfold lexemesTokensWith
  cases minStem.number? with
  | some n =>
      simp only [lexemesTokens_append]
      cases lexemesTokens n ls with
      | error e => rfl
      | ok us => cases lexemesTokens n ls' <;> rfl
  | none =>
      -- The first lexeme that asks for the length stands in one of the lists.
      by_cases hall : ∀ l ∈ ls, (!l.asksLength) = true
      · have htake : ((ls ++ ls').takeWhile fun l => !l.asksLength) =
            ls ++ ls'.takeWhile fun l => !l.asksLength := List.takeWhile_append_of_pos hall
        have hself := List.takeWhile_eq_self_iff.2 hall
        simp only [htake, hself, List.all_append, List.all_eq_true.2 hall, Bool.true_and, if_true,
          lexemesTokens_append]
        cases lexemesTokens 0 ls with
        | error e => rfl
        | ok us =>
            cases lexemesTokens 0 (ls'.takeWhile fun l => !l.asksLength) with
            | error e => rfl
            | ok vs => cases ls'.all fun l => !l.asksLength <;> rfl
      · have hfalse : (ls.all fun l => !l.asksLength) = false :=
          Bool.eq_false_iff.2 fun h => hall (List.all_eq_true.1 h)
        have htake : ((ls ++ ls').takeWhile fun l => !l.asksLength) =
            ls.takeWhile fun l => !l.asksLength := by
          rw [List.takeWhile_append, if_neg]
          intro h
          exact hall (List.takeWhile_eq_self_iff.1 ((List.takeWhile_sublist _).eq_of_length h))
        simp only [htake, List.all_append, hfalse, Bool.false_and, Bool.false_eq_true, if_false]
        cases lexemesTokens 0 (ls.takeWhile fun l => !l.asksLength) <;> rfl

/-- A text without quotes, a blank and a second text are scanned one after the other: the lexemes
are those of the first text and then those of the second, and so are the tokens, whatever is given
for the length of the shortest stem. Scanning fails if it fails on one of the two. -/
theorem scan_append_blank (hs : '"' ∉ s) (hc : isBlank c = true) (t : List Char) :
    lexemes (s ++ c :: t) = lexemes s ++ lexemes t ∧
      ∀ minStem : Datum, lexemesTokensWith minStem (lexemes (s ++ c :: t)) = do
        let us ← lexemesTokensWith minStem (lexemes s)
        let vs ← lexemesTokensWith minStem (lexemes t)
        return us ++ vs := by
  have hlexemes : lexemes (s ++ c :: t) = lexemes s ++ lexemes t := by
    rw [lexemes_append hs (endsWord_blank hc), lexemes_blank hc]
  refine ⟨hlexemes, fun minStem => ?_⟩
  rw [hlexemes]
  exact lexemesTokensWith_append minStem _ _

/-- A scope opened in front of a no-break space applies to the quotation behind it, but does not
take it as its text. -/
theorem scan_append_blank_scope :
    '"' ∉ "-cat in-body:".toList ∧ isBlank '\u00a0' = true ∧
      lexemesTokensWith .null (lexemes ("-cat in-body:".toList ++ '\u00a0' :: "\"a b\"".toList)) =
        .ok [.group [⟨true, false, "cat"⟩], .scopeStart .posts, .group [⟨false, true, "a b"⟩]] := by
  have hquote : '"' ∉ "-cat in-body:".toList := by decide
  have hblank : isBlank '\u00a0' = true := by decide
  obtain ⟨-, hscan⟩ := scan_append_blank hquote hblank "\"a b\"".toList
  refine ⟨hquote, hblank, ?_⟩
  rw [hscan .null]
  decide +kernel

end PostSearch.Query
