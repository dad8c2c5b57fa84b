import PostSearch.Query.Lexeme

/-! # Lexemes in their text

A scanner cuts the text in two: what it finds is written as the first part, and the second part is
left. So lexemes hold no characters but those of the text (`mem_of_mem_lexemes`). -/

namespace PostSearch.Query

open Unicode

variable {s : List Char} {l : Lexeme} {c : Char}

/-- What a scanner finds is written as the part of the text that it takes. -/
def Cuts {α : Type} (f : List Char → Option (α × List Char)) (text : α → List Char) : Prop :=
  ∀ s a rest, f s = some (a, rest) → s = text a ++ rest

theorem cuts_closeQuote : Cuts closeQuote? fun inner => inner ++ ['"'] := by
  intro s
  fun_induction closeQuote? s with
  | case1 | case3 | case4 =>
      intro inner rest h
      cases h
  | case2 s =>
      intro inner rest h
      cases h
      rfl
  | case5 c s _ ih =>
      intro inner rest h
      obtain ⟨⟨inner', rest'⟩, hs, e⟩ := Option.map_eq_some_iff.1 h
      cases e
      exact congrArg (fun t => '\\' :: c :: t) (ih _ _ hs)
  | case6 c s _ _ _ ih =>
      intro inner rest h
      obtain ⟨⟨inner', rest'⟩, hs, e⟩ := Option.map_eq_some_iff.1 h
      cases e
      exact congrArg (c :: ·) (ih _ _ hs)

theorem cuts_word : Cuts word? Body.text := by
  intro s body rest h
  have hs := takeWord_append s
  unfold word? at h
  split at h
  · cases h
  · rename_i w r _ hw
    cases h
    rw [hw] at hs
    exact hs.symm

theorem cuts_body : Cuts body? Body.text := by
  intro s body rest h
  unfold body? at h
  split at h
  · split at h
    · rename_i hquote
      cases h
      have hinner := cuts_closeQuote _ _ _ hquote
      rw [hinner, Body.text, List.cons_append, List.cons_append]
    · exact cuts_word _ _ _ h
  · exact cuts_word _ _ _ h

theorem cuts_named : Cuts named? fun p => p.1.elim [] (· ++ [':']) ++ p.2.text := by
  have hunnamed : Cuts unnamed? fun p => p.1.elim [] (· ++ [':']) ++ p.2.text := by
    intro s p rest h
    obtain ⟨⟨body, rest'⟩, hbody, e⟩ := Option.map_eq_some_iff.1 h
    cases e
    exact cuts_body _ _ _ hbody
  intro s p rest h
  unfold named? at h
  split at h
  · rename_i c name t htake hdrop
    split at h
    · rename_i hbody
      cases h
      have hs := List.takeWhile_append_dropWhile (p := isNameChar) (l := s)
      rw [htake, hdrop, cuts_body _ _ _ hbody] at hs
      rw [← hs]
      simp
    · exact hunnamed _ _ _ h
  · exact hunnamed _ _ _ h

theorem cuts_signed {excluded : Bool} {rest : List Char} (h : signed? excluded s = some (l, rest)) :
    (if excluded then ['-'] else []) ++ s = l.text ++ rest := by
  obtain ⟨⟨p, rest'⟩, hs, e⟩ := Option.map_eq_some_iff.1 h
  cases e
  rw [cuts_named _ _ _ hs, Lexeme.text, List.append_assoc, List.append_assoc, List.append_assoc]

theorem cuts_term : Cuts term? Lexeme.text := by
  intro s l rest h
  unfold term? at h
  split at h
  · split at h
    · rename_i hsigned
      exact cuts_signed (hsigned.trans h)
    · exact cuts_signed h
  · exact cuts_signed h

theorem cuts_lexeme : Cuts lexeme? Lexeme.text := by
  intro s l rest h
  unfold lexeme? at h
  split at h
  · cases h
    rfl
  · cases h
    rfl
  · exact cuts_term _ _ _ h

theorem mem_of_mem_lexemes (h : l ∈ lexemes s) (hc : c ∈ l.text) : c ∈ s := by
  have hdrop : ∀ {t : List Char}, c ∈ t.dropWhile isBlank → c ∈ t := fun hmem =>
    (List.dropWhile_sublist _).subset hmem
  fun_induction lexemes s with
  | case1 => cases h
  | case2 s l' rest hl ih =>
      refine hdrop ?_
      rw [cuts_lexeme _ _ _ hl]
      rcases List.mem_cons.1 h with rfl | h
      · exact List.mem_append_left _ hc
      · exact List.mem_append_right _ (ih h)

end PostSearch.Query
