import PostSearch.Proofs.Query.Scanning
import PostSearch.Proofs.Text.Pattern

/-! # The pattern of lexemes

A lexeme is described by a pattern: a combinator, or a quotation or a word that may have a sign and
a name before it, in this order of preference (`lexemePattern`). What the pattern takes from a place
onwards is the lexeme that is read there, and the groups that are set are its parts
(`first?_lexemePattern`): a sign or a name with nothing behind it and a quotation that is not closed
are given up for a word. -/

namespace PostSearch.Query

open Text Unicode

variable {s rest : List Char} {l : Lexeme} {c : Char} {i : Nat}

/-! ### The pattern of a lexeme -/

/-- The parts of a lexeme that are told apart. -/
inductive LexemePart where
  | pipe
  | plus
  | sign
  | name
  | quotation
  | word
deriving DecidableEq, Repr

/-- A character other than quotes and backslashes, or a backslash and a character that is no
newline. -/
def quotedPattern : Pattern LexemePart :=
  .either (.char fun c => c != '"' && c != '\\')
    (.seq (.char (· == '\\')) (.char (· != '\n')))

def quotationPattern : Pattern LexemePart :=
  .seq (.char (· == '"')) (.seq (.many quotedPattern) (.char (· == '"')))

def bodyPattern : Pattern LexemePart :=
  .either (.group .quotation quotationPattern) (.group .word (.run (!isBlank ·)))

/-- A name with a colon, which may be left out, and a body. -/
def namedPattern : Pattern LexemePart :=
  .seq (.optional (.seq (.group .name (.run isNameChar)) (.char (· == ':')))) bodyPattern

/-- A sign, which may be left out, and what it applies to. -/
def termPattern : Pattern LexemePart :=
  .seq (.optional (.group .sign (.char (· == '-')))) namedPattern

/-- A combinator, or a body that may have a sign and a name before it. -/
def lexemePattern : Pattern LexemePart :=
  .either (.group .pipe (.char (· == '|'))) (.either (.group .plus (.char (· == '+'))) termPattern)

/-! ### Lexemes as matches -/

/-- The part that a body is, from the index onwards. -/
def Body.group (i : Nat) (body : Body) : LexemePart × Span :=
  match body with
  | .quoted _ => (.quotation, ⟨i, i + body.text.length⟩)
  | .word _ => (.word, ⟨i, i + body.text.length⟩)

/-- What stands before the body of a lexeme. -/
def leadText (excluded : Bool) (name : Option (List Char)) : List Char :=
  (if excluded then ['-'] else []) ++ name.elim [] (· ++ [':'])

/-- The part that a name is, if there is one, from the index onwards. -/
def nameGroups (i : Nat) : Option (List Char) → List (LexemePart × Span)
  | none => []
  | some name => [(.name, ⟨i, i + name.length⟩)]

/-- The parts before the body of a lexeme, from the index onwards. -/
def leadGroups (i : Nat) (excluded : Bool) (name : Option (List Char)) : List (LexemePart × Span) :=
  match excluded with
  | false => nameGroups i name
  | true => (.sign, ⟨i, i + 1⟩) :: nameGroups (i + 1) name

def Lexeme.groups (i : Nat) : Lexeme → List (LexemePart × Span)
  | .pipe => [(.pipe, ⟨i, i + 1⟩)]
  | .plus => [(.plus, ⟨i, i + 1⟩)]
  | .term excluded name body =>
    leadGroups i excluded name ++ [body.group (i + (leadText excluded name).length)]

/-- A lexeme as a reading of the pattern from the index onwards, in front of `rest`. -/
def Lexeme.reading (i : Nat) (l : Lexeme) (rest : List Char) : Reading LexemePart :=
  ⟨l.groups i, ⟨i + l.text.length, rest⟩⟩

/-- A lexeme as a match of the pattern from the index onwards. -/
def Lexeme.matchAt (i : Nat) (l : Lexeme) : Match LexemePart :=
  ⟨⟨i, i + l.text.length⟩, l.groups i⟩

theorem text_lead (excluded : Bool) (name : Option (List Char)) (body : Body) :
    (Lexeme.term excluded name body).text = leadText excluded name ++ body.text := rfl

/-- Only the sign and the name stand before a body. -/
theorem part_leadGroups {excluded : Bool} {name : Option (List Char)} {g : LexemePart × Span}
    (h : g ∈ leadGroups i excluded name) : g.1 = .sign ∨ g.1 = .name := by
  have hname : ∀ {i}, g ∈ nameGroups i name → g.1 = .name := by
    intro i h
    cases name with
    | none => cases h
    | some name => rw [List.mem_singleton.1 h]
  cases excluded with
  | false => exact .inr (hname h)
  | true =>
      rcases List.mem_cons.1 h with rfl | h
      · exact .inl rfl
      · exact .inr (hname h)

theorem reading_unnamed (i : Nat) (body : Body) (rest : List Char) :
    (Lexeme.term false none body).reading i rest =
      ⟨[body.group i], ⟨i + body.text.length, rest⟩⟩ := rfl

theorem reading_named (i : Nat) (name : List Char) (body : Body) (rest : List Char) :
    (Lexeme.term false (some name) body).reading i rest =
      ⟨[(.name, ⟨i, i + name.length⟩), body.group (i + name.length + 1)],
        ⟨i + name.length + 1 + body.text.length, rest⟩⟩ := by
  have hlead : (leadText false (some name)).length = name.length + 1 := by
    simp [leadText]
  simp only [Lexeme.reading, Lexeme.groups, leadGroups, nameGroups, text_lead, List.length_append,
    hlead, Nat.add_assoc, List.singleton_append]

theorem reading_signed (i : Nat) (name : Option (List Char)) (body : Body) (rest : List Char) :
    (Lexeme.term true name body).reading i rest =
      ⟨(.sign, ⟨i, i + 1⟩) :: ((Lexeme.term false name body).reading (i + 1) rest).groups,
        ((Lexeme.term false name body).reading (i + 1) rest).place⟩ := by
  have hlead : (leadText true name).length = 1 + (leadText false name).length := by
    simp [leadText, Nat.add_comm]
  simp only [Lexeme.reading, Lexeme.groups, leadGroups, text_lead, List.length_append, hlead,
    Nat.add_assoc, List.cons_append]

/-! ### What is read of the pattern -/

/-- The characters of a quotation are taken up to the quote that closes it. -/
theorem first?_contents (i : Nat) (s : List Char) :
    (Pattern.seq (.many quotedPattern) (.char (· == '"'))).first? ⟨i, s⟩ =
      (closeQuote? s).map fun (inner, rest) => ⟨[], ⟨i + inner.length + 1, rest⟩⟩ := by
  fun_induction closeQuote? s generalizing i with
  | case1 | case2 | case3 | case4 =>
      -- There is no further turn, and either the quote stands here or nothing can be read.
      refine (Pattern.first?_many_seq_stop ?_).trans ?_ <;> rfl
  | case5 c s hc ih =>
      have hturn : quotedPattern.readings ⟨i, '\\' :: c :: s⟩ = [⟨[], ⟨i + 2, s⟩⟩] := by
        simp [quotedPattern, Pattern.readings, hc, Reading.followedBy]
      have hless : s.length < ('\\' :: c :: s).length := by
        rw [List.length_cons, List.length_cons]
        omega
      rw [Pattern.first?_many_seq_turn hturn hless rfl, ih]
      cases closeQuote? s with
      | none => rfl
      | some found =>
          have hindex : i + 2 + found.1.length + 1 = i + (found.1.length + 2) + 1 := by omega
          exact congrArg (fun j => some (⟨[], ⟨j, found.2⟩⟩ : Reading LexemePart)) hindex
  | case6 c s hquote hlast hnext ih =>
      have hbackslash : c ≠ '\\' := by
        rintro rfl
        cases s with
        | nil => exact hlast rfl rfl
        | cons d s => exact hnext d s rfl rfl
      have hquote : c ≠ '"' := hquote
      have hturn : quotedPattern.readings ⟨i, c :: s⟩ = [⟨[], ⟨i + 1, s⟩⟩] := by
        simp [quotedPattern, Pattern.readings, hbackslash, hquote]
      have hopen : (Pattern.char (· == '"') : Pattern LexemePart).first? ⟨i, c :: s⟩ = none := by
        rw [Pattern.first?_char_cons, if_neg (by simpa using hquote)]
      rw [Pattern.first?_many_seq_turn hturn (Nat.lt_succ_self _) hopen, ih]
      cases closeQuote? s with
      | none => rfl
      | some found =>
          have hindex : i + 1 + found.1.length + 1 = i + (found.1.length + 1) + 1 := by omega
          exact congrArg (fun j => some (⟨[], ⟨j, found.2⟩⟩ : Reading LexemePart)) hindex

theorem first?_quotation (i : Nat) (s : List Char) :
    (Pattern.group .quotation quotationPattern).first? ⟨i, '"' :: s⟩ =
      (closeQuote? s).map fun (inner, rest) =>
        ⟨[(Body.quoted inner).group i], ⟨i + (Body.quoted inner).text.length, rest⟩⟩ := by
  rw [Pattern.first?_group, quotationPattern, Pattern.first?_char_seq_cons,
    if_pos (beq_self_eq_true _), first?_contents]
  cases closeQuote? s with
  | none => rfl
  | some found =>
      have hindex : i + 1 + found.1.length + 1 = i + (Body.quoted found.1).text.length := by
        simp only [Body.text, List.length_append, List.length_cons, List.length_nil]
        omega
      exact congrArg
        (fun j => some (⟨[(.quotation, ⟨i, j⟩)], ⟨j, found.2⟩⟩ : Reading LexemePart)) hindex

theorem first?_word (i : Nat) (s : List Char) :
    (Pattern.group LexemePart.word (.run (!isBlank ·))).first? ⟨i, s⟩ =
      (word? s).map fun (body, rest) => ⟨[body.group i], ⟨i + body.text.length, rest⟩⟩ := by
  rw [Pattern.first?_group, Pattern.first?_run]
  unfold word? takeWord
  cases s.takeWhile (!isBlank ·) with
  | nil => rfl
  | cons c w => rfl

/-- A body is what the pattern of bodies takes. -/
theorem first?_bodyPattern (i : Nat) (s : List Char) :
    bodyPattern.first? ⟨i, s⟩ =
      (body? s).map fun (body, rest) => ⟨[body.group i], ⟨i + body.text.length, rest⟩⟩ := by
  rw [bodyPattern, Pattern.first?_either, first?_word]
  unfold body?
  split
  · rename_i t
    rw [first?_quotation]
    cases closeQuote? t <;> rfl
  · rename_i hs
    have hnone : (Pattern.group .quotation quotationPattern).first? ⟨i, s⟩ = none := by
      rw [Pattern.first?_group, quotationPattern]
      cases s with
      | nil => rfl
      | cons c t =>
          have hc : c ≠ '"' := fun hc => hs t (by rw [hc])
          rw [Pattern.first?_char_seq_cons, if_neg (by simpa using hc)]
          rfl
    rw [hnone, Option.none_or]

theorem first?_namedPattern (i : Nat) (s : List Char) :
    namedPattern.first? ⟨i, s⟩ =
      (named? s).map fun (p, rest) => (Lexeme.term false p.1 p.2).reading i rest := by
  have hcolon : ∀ i x s, isNameChar x = true →
      (Pattern.seq (.char (· == ':')) bodyPattern).first? ⟨i, x :: s⟩ = none := by
    intro i x s hx
    have hne : x ≠ ':' := by
      rintro rfl
      rw [isNameChar_colon] at hx
      cases hx
    rw [Pattern.first?_char_seq_cons, if_neg (by simpa using hne)]
  have hunnamed : bodyPattern.first? ⟨i, s⟩ =
      (unnamed? s).map fun (p, rest) => (Lexeme.term false p.1 p.2).reading i rest := by
    rw [first?_bodyPattern, unnamed?, Option.map_map]
    simp only [Function.comp_def, reading_unnamed]
  rw [namedPattern, Pattern.first?_optional_seq, Pattern.first?_seq_assoc,
    Pattern.first?_group_run_seq hcolon]
  unfold named?
  cases s.takeWhile isNameChar with
  | nil => exact hunnamed
  | cons c name =>
      rw [if_neg (List.cons_ne_nil _ _)]
      cases s.dropWhile isNameChar with
      | nil => exact hunnamed
      | cons x t =>
          rw [Pattern.first?_char_seq_cons]
          by_cases hx : x = ':'
          · subst hx
            rw [if_pos (beq_self_eq_true _), first?_bodyPattern]
            -- A name with nothing behind its colon is given up.
            cases hbody : body? t with
            | none => simpa [hbody] using hunnamed
            | some found => simp [hbody, reading_named, Nat.add_assoc]
          · rw [if_neg (by simpa using hx)]
            simpa [hx] using hunnamed

theorem first?_termPattern (i : Nat) (s : List Char) :
    termPattern.first? ⟨i, s⟩ = (term? s).map fun (l, rest) => l.reading i rest := by
  have hsigned : namedPattern.first? ⟨i, s⟩ =
      (signed? false s).map fun (l, rest) => l.reading i rest := by
    rw [first?_namedPattern, signed?, Option.map_map]
    rfl
  rw [termPattern, Pattern.first?_optional_seq]
  unfold term?
  split
  · rename_i t
    rw [Pattern.first?_group_char_seq_cons, if_pos (beq_self_eq_true _), first?_namedPattern]
    -- A sign with nothing behind it is given up.
    cases hnamed : named? t with
    | none => simpa [signed?, hnamed] using hsigned
    | some found => simp [signed?, hnamed, reading_signed]
  · rename_i hs
    have hnone : (Pattern.seq (.group .sign (.char (· == '-'))) namedPattern).first? ⟨i, s⟩ =
        none := by
      cases s with
      | nil => rfl
      | cons c t =>
          have hc : c ≠ '-' := fun hc => hs t (by rw [hc])
          rw [Pattern.first?_group_char_seq_cons, if_neg (by simpa using hc)]
    rw [hnone, Option.none_or]
    exact hsigned

/-- A lexeme is what the pattern of lexemes takes, and its parts are the groups. -/
theorem first?_lexemePattern (i : Nat) (s : List Char) :
    lexemePattern.first? ⟨i, s⟩ = (lexeme? s).map fun (l, rest) => l.reading i rest := by
  rw [lexemePattern, Pattern.first?_either, Pattern.first?_either, Pattern.first?_group,
    Pattern.first?_group, first?_termPattern]
  unfold lexeme?
  cases s with
  | nil => rfl
  | cons c t =>
      rw [Pattern.first?_char_cons, Pattern.first?_char_cons]
      by_cases hpipe : c = '|'
      · subst hpipe
        rfl
      by_cases hplus : c = '+'
      · subst hplus
        rfl
      simp [hpipe, hplus]

end PostSearch.Query
