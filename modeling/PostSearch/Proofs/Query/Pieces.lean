import PostSearch.Proofs.Query.Folding
import PostSearch.Proofs.Query.Meanings
import PostSearch.Proofs.Query.Scanning
import PostSearch.Query.Parse

/-! # Scanning piece by piece

`Scans` says what a piece of a text is read as, whatever follows it after a blank. Pieces next to
each other are read one after the other (`Scans.append`), and so are pieces with a separator
(`scans_joinWith`). A piece may be one lexeme (`Scans.term`), such as a name with a word
(`Scans.named`). -/

namespace PostSearch.Query

open Unicode

variable {minStem : Int} {s t rest : List Char} {ts us : List Token} {excluded : Bool}

/-- The piece is read as the tokens, whatever follows after a blank. -/
def Scans (minStem : Int) (piece : List Char) (ts : List Token) : Prop :=
  ∀ rest, EndsWord rest → scan minStem (piece ++ rest) = (scan minStem rest).map (ts ++ ·)

theorem scan_of_scans (h : Scans minStem s ts) : scan minStem s = .ok ts := by
  have hscan := h [] endsWord_nil
  have hnil : scan minStem [] = .ok [] := by
    unfold scan
    rw [lexemes_nil]
    rfl
  rw [List.append_nil, hnil] at hscan
  rw [hscan]
  exact congrArg Except.ok (List.append_nil ts)

theorem scan_of_lexemes {l : Lexeme} (hl : lexemes s = l :: lexemes rest)
    (ht : l.tokens minStem = .ok ts) : scan minStem s = (scan minStem rest).map (ts ++ ·) := by
  unfold scan
  rw [hl, lexemesTokens, ht]
  cases lexemesTokens minStem (lexemes rest) <;> rfl

/-! ### Lexemes -/

theorem Scans.pipe : Scans minStem ['|'] [.pipe] := by
  intro rest _
  have hblank : ∀ c ∈ ('|' :: rest).head?, isBlank c = false := by
    rintro c ⟨⟩
    decide
  exact scan_of_lexemes (lexemes_eq_cons hblank lexeme?_pipe) rfl

theorem Scans.plus : Scans minStem ['+'] [.plus] := by
  intro rest _
  have hblank : ∀ c ∈ ('+' :: rest).head?, isBlank c = false := by
    rintro c ⟨⟩
    decide
  exact scan_of_lexemes (lexemes_eq_cons hblank lexeme?_plus) rfl

theorem exclusionMark_toList (excluded : Bool) :
    (exclusionMark excluded).toList = if excluded then ['-'] else [] := by
  cases excluded <;> rfl

theorem Scans.term (name : Option (List Char)) (body : Body) (hs : Begins s)
    (hread : ∀ rest, EndsWord rest → named? (s ++ rest) = some ((name, body), rest))
    (ht : (Lexeme.term excluded name body).tokens minStem = .ok ts) :
    Scans minStem ((exclusionMark excluded).toList ++ s) ts := by
  intro rest hr
  rw [exclusionMark_toList, List.append_assoc]
  exact scan_of_lexemes (lexemes_term excluded (hs.append rest) (hread rest hr)) ht

theorem Scans.named {name w : List Char} (hs : Begins name)
    (hname : ∀ c ∈ name, isNameChar c = true) (hne : w ≠ []) (hw : IsUnbroken w)
    (hquote : w.head? ≠ some '"') (hcolon : w.getLast? ≠ some ':')
    (ht : namedTokens minStem excluded name (.word w)
      (Lexeme.term excluded (some name) (.word w)).text = .ok ts) :
    Scans minStem ((exclusionMark excluded).toList ++ (name ++ ':' :: w)) ts := by
  refine Scans.term (some name) (.word w) (hs.append _) (fun rest hr => ?_) ?_
  · have hnamed := named?_named hs.1 hname (body?_unbroken hne hw hquote hr)
    rwa [List.append_assoc, List.cons_append]
  · have hlast : (Lexeme.term excluded (some name) (.word w)).text.getLast? ≠ some ':' := by
      rwa [text_getLast? (.word w) hne]
    simp only [Lexeme.tokens, openedScope?_of_last hlast, ht]

theorem openedScope?_quoted (name : Option (List Char)) (inner : List Char) :
    openedScope? (Lexeme.term excluded name (.quoted inner)).text = none := by
  refine openedScope?_of_last ?_
  have hend : (Body.quoted inner).text = '"' :: inner ++ ['"'] := rfl
  rw [text_getLast? (.quoted inner) (List.cons_ne_nil _ _), hend, List.getLast?_concat]
  decide

theorem begins_quoted (inner : List Char) : Begins (Body.quoted inner).text := by
  refine ⟨List.cons_ne_nil _ _, ?_⟩
  rintro c ⟨⟩
  decide

/-- A quotation is read as a phrase, unless it is blank. -/
theorem Scans.quoted {inner : List Char}
    (hclose : ∀ rest, closeQuote? (inner ++ '"' :: rest) = some (inner, rest)) :
    Scans minStem ((exclusionMark excluded).toList ++ (Body.quoted inner).text)
      (bareTokens minStem excluded (.quoted inner)) := by
  refine Scans.term none (.quoted inner) (begins_quoted inner)
    (fun rest _ => named?_quoted (hclose rest)) ?_
  simp only [Lexeme.tokens, openedScope?_quoted]

theorem Scans.namedQuoted {name inner : List Char} (hs : Begins name)
    (hname : ∀ c ∈ name, isNameChar c = true)
    (hclose : ∀ rest, closeQuote? (inner ++ '"' :: rest) = some (inner, rest))
    (ht : ∀ raw, namedTokens minStem excluded name (.quoted inner) raw = .ok ts) :
    Scans minStem ((exclusionMark excluded).toList ++ (name ++ ':' :: (Body.quoted inner).text))
      ts := by
  refine Scans.term (some name) (.quoted inner) (hs.append _) (fun rest _ => ?_) ?_
  · have hnamed := named?_named hs.1 hname (body?_quoted (hclose rest))
    rwa [List.append_assoc, List.cons_append]
  · simp only [Lexeme.tokens, openedScope?_quoted, ht]

/-! ### Pieces next to each other -/

theorem Scans.append (hs : Scans minStem s ts) (ht : Scans minStem t us) :
    Scans minStem (s ++ ' ' :: t) (ts ++ us) := by
  intro rest hr
  have hspace : scan minStem (' ' :: (t ++ rest)) = scan minStem (t ++ rest) := by
    unfold scan
    rw [lexemes_blank (by decide)]
  rw [List.append_assoc, List.cons_append, hs _ endsWord_space, hspace, ht rest hr]
  cases scan minStem rest with
  | error e => rfl
  | ok vs => exact congrArg Except.ok (List.append_assoc ts us vs).symm

/-- Pieces with a separator between them, if the separator is read as the tokens `between`. -/
theorem scans_joinWith {α : Type} {sep : String} {between : List Token} {f : α → String}
    {g : α → List Token}
    (hsep : ∀ {s t : List Char} {ts us : List Token}, Scans minStem s ts → Scans minStem t us →
      Scans minStem (s ++ sep.toList ++ t) (ts ++ between ++ us)) :
    ∀ {xs : List α}, (∀ x ∈ xs, Scans minStem (f x).toList (g x)) →
      Scans minStem (Text.joinWith sep (xs.map f)).toList (between.intercalate (xs.map g))
  | [], _ => by
      intro rest _
      change scan minStem rest = (scan minStem rest).map ([] ++ ·)
      cases scan minStem rest <;> rfl
  | [x], h => by
      rw [List.map_singleton, Text.joinWith, List.map_singleton, List.intercalate_singleton]
      exact h x List.mem_cons_self
  | x :: y :: xs, h => by
      obtain ⟨hx, hxs⟩ := List.forall_mem_cons.1 h
      have htokens : between.intercalate ((x :: y :: xs).map g) =
          g x ++ between ++ between.intercalate ((y :: xs).map g) :=
        List.intercalate_cons_cons
      have htext : (Text.joinWith sep ((x :: y :: xs).map f)).toList =
          (f x).toList ++ sep.toList ++ (Text.joinWith sep ((y :: xs).map f)).toList := by
        simp [Text.joinWith]
      rw [htokens, htext]
      exact hsep hx (scans_joinWith hsep hxs)

theorem scan_spaced {α : Type} {f : α → String} {g : α → List Token} {xs : List α}
    (h : ∀ x ∈ xs, Scans minStem (f x).toList (g x)) :
    scan minStem (Text.joinWith " " (xs.map f)).toList = .ok (xs.flatMap g) := by
  have hsep : ∀ {s t : List Char} {ts us : List Token}, Scans minStem s ts → Scans minStem t us →
      Scans minStem (s ++ " ".toList ++ t) (ts ++ [] ++ us) := by
    intro s t ts us hs ht
    simpa using hs.append ht
  have hflat : [].intercalate (xs.map g) = xs.flatMap g := by
    cases xs with
    | nil => rfl
    | cons x xs => rw [intercalate_map_cons, List.flatMap_cons]; rfl
  rw [← hflat]
  exact scan_of_scans (scans_joinWith hsep h)

end PostSearch.Query
