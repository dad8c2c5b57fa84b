import Mathlib.Data.List.Basic
import Mathlib.Data.List.TakeWhile
import PostSearch.Query.Lexeme

/-! # How lexemes are read

A lexeme is read back from its own text when a blank, or nothing, comes after it: words
(`named?_word`), quotations (`named?_quoted`) and bodies with a name (`named?_named`). What a text
begins with is then its first lexeme (`lexemes_term`, `lexemes_named`).

The names and words that lexemes are made of hold no blanks (`yields_named`,
`isUnbroken_of_mem_lexemes`). -/

namespace PostSearch.Query

open Unicode

/-- The text ends, or goes on with a blank. -/
def EndsWord (rest : List Char) : Prop :=
  ∀ c ∈ rest.head?, isBlank c = true

def IsUnbroken (w : List Char) : Prop :=
  ∀ c ∈ w, isBlank c = false

instance (w : List Char) : Decidable (IsUnbroken w) :=
  inferInstanceAs (Decidable (∀ c ∈ w, isBlank c = false))

variable {rest s w inner name : List Char} {body : Body}

theorem endsWord_nil : EndsWord [] := by
  simp [EndsWord]

theorem endsWord_space : EndsWord (' ' :: rest) := by
  simp only [EndsWord, List.head?_cons, Option.mem_some_iff, forall_eq']
  decide

/-! ### Words -/

theorem takeWord_unbroken (hw : IsUnbroken w) (hr : EndsWord rest) :
    takeWord (w ++ rest) = (w, rest) := by
  have hw' : ∀ c ∈ w, (!isBlank c) = true := fun c hc => by rw [hw c hc]; rfl
  unfold takeWord
  rw [List.takeWhile_append_of_pos hw', List.dropWhile_append_of_pos hw']
  cases rest with
  | nil => simp
  | cons c rest =>
      have hc : isBlank c = true := hr c rfl
      simp [hc]

theorem word?_unbroken (hne : w ≠ []) (hw : IsUnbroken w) (hr : EndsWord rest) :
    word? (w ++ rest) = some (.word w, rest) := by
  unfold word?
  rw [takeWord_unbroken hw hr]
  cases w with
  | nil => exact absurd rfl hne
  | cons c w => rfl

theorem body?_end (hr : EndsWord rest) : body? rest = none := by
  have hword : word? rest = none := by
    have h := takeWord_unbroken (w := []) (by simp [IsUnbroken]) hr
    rw [List.nil_append] at h
    unfold word?
    rw [h]
  unfold body?
  split
  · have hquote : isBlank '"' = true := hr _ rfl
    exact absurd hquote (by decide)
  · exact hword

theorem body?_unbroken (hne : w ≠ []) (hw : IsUnbroken w) (hquote : w.head? ≠ some '"')
    (hr : EndsWord rest) : body? (w ++ rest) = some (.word w, rest) := by
  obtain ⟨c, w', rfl⟩ := List.exists_cons_of_ne_nil hne
  rw [← word?_unbroken hne hw hr]
  unfold body?
  split
  · rename_i t h
    cases h
    exact absurd rfl hquote
  · rfl

theorem body?_quoted (h : closeQuote? (inner ++ '"' :: rest) = some (inner, rest)) :
    body? ((Body.quoted inner).text ++ rest) = some (.quoted inner, rest) := by
  simp only [Body.text, List.cons_append, List.append_assoc, List.nil_append, body?, h]

/-! ### Names -/

theorem isNameChar_of_isBlank {c : Char} (h : isBlank c = true) : isNameChar c = false := by
  have htable : ∀ r ∈ blankRanges, ∀ n ∈ List.range' r.first (r.last + 1 - r.first),
      isNameChar (Char.ofNat n) = false := by
    decide +kernel
  obtain ⟨r, hr⟩ := Option.isSome_iff_exists.1 h
  obtain ⟨hmem, hfirst, hlast⟩ := rangeOf?_some hr
  have hc : c.toNat ∈ List.range' r.first (r.last + 1 - r.first) :=
    List.mem_range'_1.2 ⟨hfirst, by omega⟩
  rw [← Char.ofNat_toNat c]
  exact htable r hmem _ hc

theorem isNameChar_colon : isNameChar ':' = false := by
  decide +kernel

theorem dropWhile_isNameChar_end (hr : EndsWord rest) : rest.dropWhile isNameChar = rest := by
  cases rest with
  | nil => rfl
  | cons c rest =>
      rw [List.dropWhile_cons, isNameChar_of_isBlank (hr c rfl)]
      rfl

theorem named?_of_ne_colon (h : (s.dropWhile isNameChar).head? ≠ some ':') :
    named? s = unnamed? s := by
  unfold named?
  split
  · rename_i c name t _ hd
    rw [hd] at h
    exact absurd rfl h
  · rfl

/-- A name before the end of a word has nothing to name. -/
theorem named?_bare (hname : ∀ c ∈ name, isNameChar c = true) (hr : EndsWord rest) :
    named? (name ++ ':' :: rest) = unnamed? (name ++ ':' :: rest) := by
  unfold named?
  split
  · rename_i c n t ht hd
    rw [List.dropWhile_append_of_pos hname, List.dropWhile_cons, isNameChar_colon] at hd
    obtain rfl : rest = t := by simpa using hd
    rw [body?_end hr]
  · rfl

theorem named?_named (hne : name ≠ []) (hname : ∀ c ∈ name, isNameChar c = true)
    (h : body? s = some (body, rest)) :
    named? (name ++ ':' :: s) = some ((some name, body), rest) := by
  have htake : (name ++ ':' :: s).takeWhile isNameChar = name := by
    rw [List.takeWhile_append_of_pos hname, List.takeWhile_cons, isNameChar_colon]
    exact List.append_nil _
  have hdrop : (name ++ ':' :: s).dropWhile isNameChar = ':' :: s := by
    rw [List.dropWhile_append_of_pos hname, List.dropWhile_cons, isNameChar_colon]
    rfl
  obtain ⟨c, n, rfl⟩ := List.exists_cons_of_ne_nil hne
  unfold named?
  rw [htake, hdrop]
  simp only [h]

theorem named?_word (hne : w ≠ []) (hw : IsUnbroken w) (hcolon : ':' ∉ w) (hquote : '"' ∉ w)
    (hr : EndsWord rest) : named? (w ++ rest) = some ((none, .word w), rest) := by
  have hname : ((w ++ rest).dropWhile isNameChar).head? ≠ some ':' := by
    rw [List.dropWhile_append]
    split
    · rw [dropWhile_isNameChar_end hr]
      intro h
      exact absurd (hr ':' h) (by decide)
    · rename_i hd
      have hd' : w.dropWhile isNameChar ≠ [] := by simpa using hd
      rw [List.head?_append_of_ne_nil _ hd']
      intro h
      exact hcolon ((List.dropWhile_sublist _).subset (List.mem_of_head? h))
  have hhead : w.head? ≠ some '"' := fun h => hquote (List.mem_of_head? h)
  rw [named?_of_ne_colon hname, unnamed?, body?_unbroken hne hw hhead hr]
  rfl

/-- A text that begins with a quotation has no name before it. -/
theorem named?_quoted (h : closeQuote? (inner ++ '"' :: rest) = some (inner, rest)) :
    named? ((Body.quoted inner).text ++ rest) = some ((none, .quoted inner), rest) := by
  have hcolon : (((Body.quoted inner).text ++ rest).dropWhile isNameChar).head? ≠ some ':' := by
    have hquote : isNameChar '"' = false := by decide +kernel
    simp [Body.text, hquote]
  rw [named?_of_ne_colon hcolon, unnamed?, body?_quoted h]
  rfl

/-! ### Lexemes -/

/-- A lexeme is read from its own text. Without a sign it must not begin with one, or with a
combinator. -/
theorem lexeme?_term {excluded : Bool} {name : Option (List Char)}
    (hs : excluded = false → ∀ c ∈ s.head?, c ∉ ['|', '+', '-'])
    (h : named? s = some ((name, body), rest)) :
    lexeme? ((if excluded then ['-'] else []) ++ s) = some (.term excluded name body, rest) := by
  cases excluded with
  | true => simp [lexeme?, term?, signed?, h]
  | false =>
      cases s with
      | nil => cases h
      | cons c s =>
          have hc := hs rfl c rfl
          simp only [List.mem_cons, List.not_mem_nil, or_false, not_or] at hc
          obtain ⟨hpipe, hplus, hminus⟩ := hc
          simp [lexeme?, term?, signed?, h, hpipe, hplus, hminus]

theorem lexeme?_pipe : lexeme? ('|' :: rest) = some (.pipe, rest) :=
  rfl

theorem lexeme?_plus : lexeme? ('+' :: rest) = some (.plus, rest) :=
  rfl

theorem lexemes_eq (s : List Char) : lexemes s =
    match lexeme? (s.dropWhile isBlank) with
    | none => []
    | some (l, rest) => l :: lexemes rest := by
  rw [lexemes]
  split
  · rename_i h
    rw [h]
  · rename_i h
    rw [h]

theorem lexemes_nil : lexemes [] = [] := by
  rw [lexemes_eq]
  rfl

theorem lexemes_blank {c : Char} (h : isBlank c = true) : lexemes (c :: s) = lexemes s := by
  rw [lexemes_eq, List.dropWhile_cons, if_pos h, ← lexemes_eq]

theorem lexemes_eq_cons {l : Lexeme} (hs : ∀ c ∈ s.head?, isBlank c = false)
    (h : lexeme? s = some (l, rest)) : lexemes s = l :: lexemes rest := by
  have hdrop : s.dropWhile isBlank = s := by
    cases s with
    | nil => rfl
    | cons c s =>
        have hc : isBlank c = false := hs c rfl
        simp [hc]
  rw [lexemes_eq, hdrop, h]

/-- The text begins a lexeme that has no sign. -/
def Begins (s : List Char) : Prop :=
  s ≠ [] ∧ ∀ c ∈ s.head?, isBlank c = false ∧ c ∉ ['|', '+', '-']

instance (s : List Char) : Decidable (Begins s) :=
  inferInstanceAs (Decidable (_ ∧ ∀ c ∈ s.head?, _))

theorem Begins.append (h : Begins s) (t : List Char) : Begins (s ++ t) := by
  obtain ⟨hne, hhead⟩ := h
  refine ⟨List.append_ne_nil_of_left_ne_nil hne t, ?_⟩
  rwa [List.head?_append_of_ne_nil _ hne]

theorem lexemes_term (excluded : Bool) {name : Option (List Char)} (hs : Begins s)
    (h : named? s = some ((name, body), rest)) :
    lexemes ((if excluded then ['-'] else []) ++ s) =
      .term excluded name body :: lexemes rest := by
  refine lexemes_eq_cons ?_ (lexeme?_term (fun _ c hc => (hs.2 c hc).2) h)
  cases excluded with
  | true =>
      rintro c ⟨⟩
      decide
  | false => exact fun c hc => (hs.2 c hc).1

theorem lexemes_named (excluded : Bool) (hs : Begins name)
    (hname : ∀ c ∈ name, isNameChar c = true) (hne : w ≠ []) (hw : IsUnbroken w)
    (hquote : w.head? ≠ some '"') (hr : EndsWord rest) :
    lexemes ((if excluded then ['-'] else []) ++ (name ++ ':' :: (w ++ rest))) =
      .term excluded (some name) (.word w) :: lexemes rest := by
  have hbody := body?_unbroken hne hw hquote hr
  exact lexemes_term excluded (hs.append _) (named?_named hs.1 hname hbody)

/-! ### The words of a text -/

def Body.IsUnbroken : Body → Prop
  | .quoted _ => True
  | .word w => Query.IsUnbroken w

def Lexeme.IsUnbroken : Lexeme → Prop
  | .pipe | .plus => True
  | .term _ _ body => body.IsUnbroken

/-- What a scanner finds satisfies `P`. -/
def Yields {α : Type} (f : List Char → Option (α × List Char)) (P : α → Prop) : Prop :=
  ∀ s a rest, f s = some (a, rest) → P a

theorem yields_map {α β : Type} {f : List Char → Option (α × List Char)} {P : α → Prop}
    {Q : β → Prop} {g : α → β} (hf : Yields f P) (hg : ∀ a, P a → Q (g a)) :
    Yields (fun s => (f s).map fun (a, rest) => (g a, rest)) Q := by
  intro s b rest h
  obtain ⟨⟨a, r⟩, hr, he⟩ := Option.map_eq_some_iff.1 h
  simp only [Prod.mk.injEq] at he
  exact he.1 ▸ hg a (hf _ _ _ hr)

theorem yields_word : Yields word? Body.IsUnbroken := by
  intro s b rest h
  unfold word? at h
  split at h
  · cases h
  · rename_i w r _ hw
    cases h
    intro c hc
    obtain rfl : s.takeWhile (!isBlank ·) = w := congrArg Prod.fst hw
    have := List.mem_takeWhile_imp hc
    simpa using this

theorem yields_body : Yields body? Body.IsUnbroken := by
  intro s b rest h
  unfold body? at h
  split at h
  · split at h
    · cases h
      trivial
    · exact yields_word _ _ _ h
  · exact yields_word _ _ _ h

/-- The name has no blanks if there is one, and the words of the body have none. -/
def IsUnbrokenNamed (p : Option (List Char) × Body) : Prop :=
  (∀ name ∈ p.1, IsUnbroken name) ∧ p.2.IsUnbroken

theorem yields_named : Yields named? IsUnbrokenNamed := by
  have hunnamed : Yields unnamed? IsUnbrokenNamed :=
    yields_map yields_body fun _ h => ⟨nofun, h⟩
  intro s p rest h
  unfold named? at h
  split at h
  · rename_i c name t htake _
    split at h
    · rename_i hb
      cases h
      refine ⟨?_, yields_body _ _ _ hb⟩
      rintro _ ⟨⟩ d hd
      rw [← htake] at hd
      have hname : isNameChar d = true := List.mem_takeWhile_imp hd
      rw [Bool.eq_false_iff]
      intro hblank
      rw [isNameChar_of_isBlank hblank] at hname
      cases hname
    · exact hunnamed _ _ _ h
  · exact hunnamed _ _ _ h

/-- The name and the body of a lexeme satisfy `P`, unless it is a combinator. -/
def Lexeme.Satisfies (P : Option (List Char) × Body → Prop) : Lexeme → Prop
  | .pipe | .plus => True
  | .term _ name body => P (name, body)

/-- What holds of all names and bodies that are read holds of those of all lexemes. -/
theorem yields_lexeme_of_named {P : Option (List Char) × Body → Prop} (hP : Yields named? P) :
    Yields lexeme? (Lexeme.Satisfies P) := by
  have hsigned : ∀ excluded, Yields (signed? excluded) (Lexeme.Satisfies P) := by
    intro excluded
    have hterm : ∀ p : Option (List Char) × Body, P p →
        (Lexeme.term excluded p.1 p.2).Satisfies P := fun _ h => h
    exact yields_map hP hterm
  intro s l rest h
  unfold lexeme? at h
  split at h
  · cases h
    trivial
  · cases h
    trivial
  · unfold term? at h
    split at h
    · split at h
      · rename_i hf
        exact hsigned true _ _ _ (hf.trans h)
      · exact hsigned false _ _ _ h
    · exact hsigned false _ _ _ h

theorem yields_lexeme : Yields lexeme? Lexeme.IsUnbroken := by
  intro s l rest h
  have hl := yields_lexeme_of_named yields_named s l rest h
  cases l with
  | pipe | plus => trivial
  | term excluded name body => exact hl.2

theorem isUnbroken_of_mem_lexemes {l : Lexeme} (h : l ∈ lexemes s) : l.IsUnbroken := by
  fun_induction lexemes s with
  | case1 => cases h
  | case2 s l' rest hl ih =>
      rcases List.mem_cons.1 h with rfl | h
      · exact yields_lexeme _ _ _ hl
      · exact ih h

end PostSearch.Query
