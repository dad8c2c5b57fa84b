import PostSearch.Proofs.Query.Cutting
import PostSearch.Proofs.Query.LexemePattern
import PostSearch.Proofs.Query.Separation

/-! # The cover of a text

What the pattern of lexemes finds in a text are the lexemes of the text, each at its place
(`IsLexemeAt`). From any place onwards the text is made up of blanks, a lexeme, and so on
(`Covers`, `covers`); that the matches follow each other and leave out nothing but blanks is shown
along this relation. Where the blanks of a match are, and which groups it has, is told from its
lexeme (`exists_quotation`, `existsUnique_group`, `stop_of_mem_groups`).

Main statement: `matchesIn_cover`. -/

namespace PostSearch.Query

open Text Unicode

variable {s rest : List Char} {l : Lexeme} {c : Char} {i : Nat}

/-! ### Lexemes in their place -/

/-- The lexeme is read at the place of the match, and its parts are the groups of the match. -/
def IsLexemeAt (s : List Char) (m : Match LexemePart) (l : Lexeme) : Prop :=
  m = l.matchAt m.span.start ∧ lexeme? (s.drop m.span.start) = some (l, s.drop m.span.stop)

theorem lexeme?_blank (hc : isBlank c = true) : lexeme? (c :: s) = none := by
  have hend : EndsWord (c :: s) := endsWord_blank hc
  have hne : ∀ d, isBlank d = false → c ≠ d := by
    rintro d hd rfl
    rw [hd] at hc
    cases hc
  have hnamed : named? (c :: s) = none := by
    have hcolon : ((c :: s).dropWhile isNameChar).head? ≠ some ':' := by
      rw [dropWhile_isNameChar_end hend]
      simpa using hne ':' (by decide)
    rw [named?_of_ne_colon hcolon, unnamed?, body?_end hend]
    rfl
  have hpipe := hne '|' (by decide)
  have hplus := hne '+' (by decide)
  have hminus := hne '-' (by decide)
  simp [lexeme?, term?, signed?, hnamed, hpipe, hplus, hminus]

theorem isUnbroken_leadText (excluded : Bool) {name : Option (List Char)}
    (hname : ∀ name' ∈ name, IsUnbroken name') : IsUnbroken (leadText excluded name) := by
  intro c hc
  rcases List.mem_append.1 hc with hsign | hc
  · cases excluded with
    | false => cases hsign
    | true =>
        rw [List.mem_singleton.1 hsign]
        decide
  · cases name with
    | none => cases hc
    | some name =>
        rcases List.mem_append.1 hc with hc | hcolon
        · exact hname name rfl c hc
        · rw [List.mem_singleton.1 hcolon]
          decide

/-- A blank in a quotation is neither of its quotes. -/
theorem blank_between {inner : List Char} {k : Nat} (hk : (Body.quoted inner).text[k]? = some c)
    (hc : isBlank c = true) : 0 < k ∧ k + 1 < (Body.quoted inner).text.length := by
  have hquote : isBlank '"' = false := by decide
  rw [Body.text, List.cons_append] at hk ⊢
  cases k with
  | zero =>
      rw [List.getElem?_cons_zero, Option.some.injEq] at hk
      rw [← hk, hquote] at hc
      cases hc
  | succ k =>
      rw [List.getElem?_cons_succ] at hk
      by_cases hlast : k < inner.length
      · rw [List.length_cons, List.length_append, List.length_singleton]
        omega
      · rw [List.getElem?_append_right (by omega)] at hk
        have hmem := List.mem_of_getElem? hk
        rw [List.mem_singleton.1 hmem, hquote] at hc
        cases hc

/-- A blank in a lexeme is between the quotes of its quotation. -/
theorem exists_quotation (hl : l.Satisfies IsUnbrokenNamed) {k : Nat}
    (hk : l.text[k]? = some c) (hc : isBlank c = true) (i : Nat) :
    ∃ q, (.quotation, q) ∈ l.groups i ∧ q.start < i + k ∧ i + k + 1 < q.stop := by
  cases l with
  | pipe | plus =>
      rw [List.mem_singleton.1 (List.mem_of_getElem? hk)] at hc
      exact absurd hc (by decide)
  | term excluded name body =>
      obtain ⟨hname, hbody⟩ := hl
      rw [text_lead] at hk
      by_cases hlead : k < (leadText excluded name).length
      · rw [List.getElem?_append_left hlead] at hk
        rw [isUnbroken_leadText excluded hname c (List.mem_of_getElem? hk)] at hc
        cases hc
      · rw [List.getElem?_append_right (by omega)] at hk
        cases body with
        | word w =>
            rw [hbody c (List.mem_of_getElem? hk)] at hc
            cases hc
        | quoted inner =>
            obtain ⟨hfirst, hlast⟩ := blank_between hk hc
            refine ⟨⟨_, _⟩, List.mem_append_right _ (List.mem_singleton.2 rfl), ?_, ?_⟩
            · show i + (leadText excluded name).length < i + k
              omega
            · show i + k + 1 <
                i + (leadText excluded name).length + (Body.quoted inner).text.length
              omega

theorem mem_groups_term {excluded : Bool} {name : Option (List Char)} {body : Body}
    {g : LexemePart × Span} (h : g ∈ (Lexeme.term excluded name body).groups i) :
    (g.1 = .sign ∨ g.1 = .name) ∨ g = body.group (i + (leadText excluded name).length) := by
  rcases List.mem_append.1 h with h | h
  · exact .inl (part_leadGroups h)
  · exact .inr (List.mem_singleton.1 h)

/-- A lexeme is a combinator, a quotation or a word, but for its sign and name. -/
theorem existsUnique_group (i : Nat) (l : Lexeme) :
    ∃! g, g ∈ l.groups i ∧ g.1 ∈ [.pipe, .plus, .quotation, .word] := by
  cases l with
  | pipe | plus =>
      exact ⟨_, ⟨List.mem_singleton.2 rfl, by simp⟩, fun g hg => List.mem_singleton.1 hg.1⟩
  | term excluded name body =>
      refine ⟨body.group _, ⟨List.mem_append_right _ (List.mem_singleton.2 rfl), ?_⟩, ?_⟩
      · cases body <;> simp [Body.group]
      · rintro g ⟨hg, hpart⟩
        rcases mem_groups_term hg with (hsign | hname) | hbody
        · simp [hsign] at hpart
        · simp [hname] at hpart
        · exact hbody

/-- A quotation and a word reach to the end of their lexeme. -/
theorem stop_of_mem_groups {g : LexemePart × Span} (h : g ∈ l.groups i)
    (hpart : g.1 ∈ [.quotation, .word]) : g.2.stop = i + l.text.length := by
  cases l with
  | pipe | plus =>
      simp [List.mem_singleton.1 h] at hpart
  | term excluded name body =>
      rcases mem_groups_term h with (hsign | hname) | hbody
      · simp [hsign] at hpart
      · simp [hname] at hpart
      · rw [hbody, text_lead, List.length_append, ← Nat.add_assoc]
        cases body <;> rfl

/-! ### The whole text -/

/-- From the index onwards the text is made up of blanks and of what was found, which are the
lexemes in order. -/
inductive Covers : Nat → List Char → List (Match LexemePart) → List Lexeme → Prop where
  | blanks {i : Nat} {gap : List Char} : (∀ c ∈ gap, isBlank c = true) → Covers i gap [] []
  | lexeme {i : Nat} {gap rest : List Char} {l : Lexeme} {ms : List (Match LexemePart)}
      {ls : List Lexeme} : (∀ c ∈ gap, isBlank c = true) →
      lexeme? (l.text ++ rest) = some (l, rest) →
      Covers (i + gap.length + l.text.length) rest ms ls →
      Covers i (gap ++ (l.text ++ rest)) (l.matchAt (i + gap.length) :: ms) (l :: ls)

theorem findAll_blanks {gap : List Char} (hgap : ∀ c ∈ gap, isBlank c = true) (i : Nat)
    (s : List Char) :
    lexemePattern.findAll ⟨i, gap ++ s⟩ = lexemePattern.findAll ⟨i + gap.length, s⟩ := by
  induction gap generalizing i with
  | nil => rfl
  | cons c gap ih =>
      obtain ⟨hc, hgap⟩ := List.forall_mem_cons.1 hgap
      have hnone : lexemePattern.first? ⟨i, c :: (gap ++ s)⟩ = none := by
        rw [first?_lexemePattern, lexeme?_blank hc]
        rfl
      rw [List.cons_append, Pattern.findAll_none hnone, ih hgap, List.length_cons,
        Nat.add_right_comm, Nat.add_assoc]

theorem findAll_lexeme (h : lexeme? s = some (l, rest)) (i : Nat) :
    lexemePattern.findAll ⟨i, s⟩ =
      l.matchAt i :: lexemePattern.findAll ⟨i + l.text.length, rest⟩ := by
  have hsome : lexemePattern.first? ⟨i, s⟩ = some (l.reading i rest) := by
    rw [first?_lexemePattern, h]
    rfl
  exact Pattern.findAll_some hsome (consumes_lexeme _ _ _ h)

theorem covers (i : Nat) (s : List Char) :
    Covers i s (lexemePattern.findAll ⟨i, s⟩) (lexemes s) := by
  fun_induction lexemes s generalizing i with
  | case1 s hnone =>
      have hgap : ∀ c ∈ s, isBlank c = true :=
        List.dropWhile_eq_nil_iff.1 (dropWhile_isBlank_eq_nil hnone)
      have hfound : lexemePattern.findAll ⟨i, s⟩ = [] := by
        rw [← List.append_nil s, findAll_blanks hgap, Pattern.findAll_nil]
        exact first?_lexemePattern _ []
      rw [hfound]
      exact .blanks hgap
  | case2 s l rest hl ih =>
      have hgap : ∀ c ∈ s.takeWhile isBlank, isBlank c = true := fun _ hc =>
        List.mem_takeWhile_imp hc
      have hcut := cuts_lexeme _ _ _ hl
      rw [← List.takeWhile_append_dropWhile (p := isBlank) (l := s), findAll_blanks hgap,
        findAll_lexeme hl, hcut]
      exact .lexeme hgap (hcut ▸ hl) (ih _)

/-! ### What the matches are -/

namespace Covers

variable {ms : List (Match LexemePart)} {ls : List Lexeme}

theorem bounds (h : Covers i s ms ls) : ∀ m ∈ ms,
    i ≤ m.span.start ∧ m.span.start < m.span.stop ∧ m.span.stop ≤ i + s.length := by
  induction h with
  | blanks _ => nofun
  | @lexeme i gap rest l ms ls _ hl _ ih =>
      have hless : 0 < l.text.length := by
        have hrest := consumes_lexeme _ _ _ hl
        rw [List.length_append] at hrest
        omega
      rw [List.length_append, List.length_append]
      intro m hm
      rcases List.mem_cons.1 hm with rfl | hm
      · show i ≤ i + gap.length ∧ i + gap.length < i + gap.length + l.text.length ∧
          i + gap.length + l.text.length ≤ i + (gap.length + (l.text.length + rest.length))
        omega
      · have := ih m hm
        omega

theorem pairwise (h : Covers i s ms ls) :
    ms.Pairwise fun m n => m.span.stop ≤ n.span.start := by
  induction h with
  | blanks _ => exact .nil
  | lexeme _ _ htail ih => exact .cons (fun n hn => (htail.bounds n hn).1) ih

theorem blank_outside (h : Covers i s ms ls) {k : Nat} (hk : s[k]? = some c)
    (hout : ∀ m ∈ ms, i + k ∉ m.span) : isBlank c = true := by
  induction h generalizing k with
  | blanks hgap => exact hgap c (List.mem_of_getElem? hk)
  | @lexeme i gap rest l ms ls hgap hl htail ih =>
      obtain ⟨hfirst, hout⟩ := List.forall_mem_cons.1 hout
      by_cases hingap : k < gap.length
      · rw [List.getElem?_append_left hingap] at hk
        exact hgap c (List.mem_of_getElem? hk)
      · have hbehind : gap.length + l.text.length ≤ k := by
          by_contra hbefore
          refine hfirst (Span.mem_iff.2 ?_)
          show i + gap.length ≤ i + k ∧ i + k < i + gap.length + l.text.length
          omega
        rw [List.getElem?_append_right (by omega), List.getElem?_append_right (by omega)] at hk
        have hindex : i + gap.length + l.text.length + (k - gap.length - l.text.length) = i + k := by
          omega
        refine ih hk fun m hm => ?_
        rw [hindex]
        exact hout m hm

theorem forall₂ (h : Covers i s ms ls) {before : List Char} (hi : before.length = i) :
    List.Forall₂ (IsLexemeAt (before ++ s)) ms ls := by
  induction h generalizing before with
  | blanks _ => exact .nil
  | @lexeme i gap rest l ms ls _ hl htail ih =>
      refine .cons ⟨rfl, ?_⟩ ?_
      · show lexeme? ((before ++ (gap ++ (l.text ++ rest))).drop (i + gap.length)) =
          some (l, (before ++ (gap ++ (l.text ++ rest))).drop (i + gap.length + l.text.length))
        rw [← hi, ← List.length_append, ← List.append_assoc, List.drop_left, ← List.length_append,
          ← List.append_assoc, List.drop_left]
        exact hl
      · have htext : before ++ (gap ++ (l.text ++ rest)) = (before ++ gap ++ l.text) ++ rest := by
          simp
        rw [htext]
        refine ih ?_
        rw [List.length_append, List.length_append, hi]

end Covers

/-! ### Matches in a text -/

/-- All that is found of the pattern in a text. -/
def matchesIn (s : List Char) : List (Match LexemePart) :=
  lexemePattern.findAll ⟨0, s⟩

namespace IsLexemeAt

variable {m : Match LexemePart}

theorem stop_eq (h : IsLexemeAt s m l) : m.span.stop = m.span.start + l.text.length :=
  congrArg (·.span.stop) h.1

theorem mem_groups (h : IsLexemeAt s m l) {g : LexemePart × Span} :
    g ∈ m.groups ↔ g ∈ l.groups m.span.start := by
  have hgroups : m.groups = l.groups m.span.start := congrArg (·.groups) h.1
  rw [hgroups]

theorem getElem?_eq (h : IsLexemeAt s m l) {k : Nat} (hk : k ∈ m.span) :
    s[k]? = l.text[k - m.span.start]? := by
  obtain ⟨hstart, hstop⟩ := Span.mem_iff.1 hk
  have hlength := h.stop_eq
  have hcut := cuts_lexeme _ _ _ h.2
  have hwithin : k - m.span.start < l.text.length := by omega
  calc s[k]? = (s.drop m.span.start)[k - m.span.start]? := by
        rw [List.getElem?_drop, Nat.add_sub_cancel' hstart]
    _ = (l.text ++ s.drop m.span.stop)[k - m.span.start]? := by rw [← hcut]
    _ = l.text[k - m.span.start]? := List.getElem?_append_left hwithin

theorem exists_first (h : IsLexemeAt s m l) : ∃ c ∈ s[m.span.start]?, isBlank c = false := by
  have hlexeme := h.2
  cases hs : s.drop m.span.start with
  | nil =>
      rw [hs] at hlexeme
      cases hlexeme
  | cons c t =>
      refine ⟨c, ?_, ?_⟩
      · have hfirst : (s.drop m.span.start)[0]? = s[m.span.start]? := List.getElem?_drop
        rw [← hfirst, hs]
        rfl
      · rw [Bool.eq_false_iff]
        intro hc
        rw [hs, lexeme?_blank hc] at hlexeme
        cases hlexeme

end IsLexemeAt

/-- The lexemes of a text are what the pattern of lexemes finds in it, one match after the other,
and nothing but blanks is left out. A match takes at least one character, and the first one is no
blank; blanks are in it only between the quotes of a quotation. It has one part besides its sign and
its name: it is a combinator, or ends with its quotation or its word. -/
theorem matchesIn_cover (s : List Char) :
    List.Forall₂ (IsLexemeAt s) (matchesIn s) (lexemes s) ∧
      (∀ m ∈ matchesIn s, m.span.start < m.span.stop ∧ m.span.stop ≤ s.length) ∧
      (matchesIn s).Pairwise (fun m n => m.span.stop ≤ n.span.start) ∧
      (∀ k, ∀ c ∈ s[k]?, (∀ m ∈ matchesIn s, k ∉ m.span) → isBlank c = true) ∧
      ∀ m ∈ matchesIn s,
        (∃ c ∈ s[m.span.start]?, isBlank c = false) ∧
        (∀ k ∈ m.span, ∀ c ∈ s[k]?, isBlank c = true →
          ∃ q, (.quotation, q) ∈ m.groups ∧ q.start < k ∧ k + 1 < q.stop) ∧
        (∃! g, g ∈ m.groups ∧ g.1 ∈ [.pipe, .plus, .quotation, .word]) ∧
        ∀ g ∈ m.groups, g.1 ∈ [.quotation, .word] → g.2.stop = m.span.stop := by
  have hcovers := covers 0 s
  have hlexemes : List.Forall₂ (IsLexemeAt s) (matchesIn s) (lexemes s) :=
    hcovers.forall₂ List.length_nil
  refine ⟨hlexemes, fun m hm => ?_, hcovers.pairwise, fun k c hk hout => ?_, fun m hm => ?_⟩
  · have hbounds := hcovers.bounds m hm
    omega
  · refine hcovers.blank_outside hk fun m hm => ?_
    rw [Nat.zero_add]
    exact hout m hm
  · have hlexeme : ∃ l ∈ lexemes s, IsLexemeAt s m l := exists_of_mem_right hlexemes.flip hm
    obtain ⟨l, -, hl⟩ := hlexeme
    refine ⟨hl.exists_first, fun k hk c hc hblank => ?_, ?_, fun g hg hpart => ?_⟩
    · have hunbroken := yields_lexeme_of_named yields_named _ _ _ hl.2
      have hchar : l.text[k - m.span.start]? = some c := (hl.getElem?_eq hk).symm.trans hc
      obtain ⟨q, hq, hbetween⟩ := exists_quotation hunbroken hchar hblank m.span.start
      rw [Nat.add_sub_cancel' hk.1] at hbetween
      exact ⟨q, hl.mem_groups.2 hq, hbetween⟩
    · simpa only [hl.mem_groups] using existsUnique_group m.span.start l
    · rw [hl.stop_eq]
      exact stop_of_mem_groups (hl.mem_groups.1 hg) hpart

/-- A lone sign, a name with nothing behind its colon and a quotation that is not closed before a
newline are words. The blank in the quotation behind them is between its quotes, and no match takes
the one behind the lone sign. -/
theorem matchesIn_cover_given_up :
    (∃ m ∈ matchesIn "- in: \"a\\\nb -in:\"x y\"|".toList,
      m.span = ⟨12, 21⟩ ∧ 18 ∈ m.span ∧
        ∃ q, (.quotation, q) ∈ m.groups ∧ q.start < 18 ∧ 18 + 1 < q.stop) ∧
      (∀ m ∈ matchesIn "- in: \"a\\\nb -in:\"x y\"|".toList, 1 ∉ m.span) ∧
      isBlank ' ' = true := by
  have hmatch : ⟨⟨12, 21⟩, [(.sign, ⟨12, 13⟩), (.name, ⟨13, 15⟩), (.quotation, ⟨16, 21⟩)]⟩ ∈
      matchesIn "- in: \"a\\\nb -in:\"x y\"|".toList := by
    decide +kernel
  have hout : ∀ m ∈ matchesIn "- in: \"a\\\nb -in:\"x y\"|".toList, 1 ∉ m.span := by
    decide +kernel
  have hinside : 18 ∈ (⟨12, 21⟩ : Span) := by decide
  obtain ⟨-, -, -, hblank, hmatches⟩ := matchesIn_cover "- in: \"a\\\nb -in:\"x y\"|".toList
  obtain ⟨-, hquotation, -⟩ := hmatches _ hmatch
  exact ⟨⟨_, hmatch, rfl, hinside, hquotation 18 hinside ' ' rfl (by decide)⟩, hout,
    hblank 1 ' ' rfl hout⟩

end PostSearch.Query
