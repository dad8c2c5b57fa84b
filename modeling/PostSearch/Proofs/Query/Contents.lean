import PostSearch.Proofs.Query.CommentScope
import PostSearch.Proofs.Query.Grammar
import PostSearch.Proofs.Query.Parsed

/-! # Texts of parsed queries

What tokens a lexeme can have is said once (`token_cases`), and so is what texts they hold
(`mem_leaves_bareTokens`, `mem_leaves_scopeTokens`). None of them is a sequence, the comment scope
adds nothing but its start and drops nothing but conditions, and folding keeps all texts. So
the texts of a parsed query are those of its lexemes (`mem_leaves_parse`). -/

namespace PostSearch.Query

open Unicode

variable {query : String} {n : Int} {l : Lexeme} {ls : List Lexeme} {ts us : List Token} {t : Token}
  {o : Operator} {leaf : Leaf} {excluded : Bool} {scope : Scope} {body : Body} {s : List Char}

/-! ### Tokens of lexemes -/

/-- The name of the lexeme is one of the operator's. -/
def Lexeme.Names (o : Operator) : Lexeme → Prop
  | .term _ (some name) _ =>
    spelled? name listSpellings = some o ∨ spelled? name dateSpellings = some o ∨
      spelled? name fileSpellings = some o ∨ spelled? name counterSpellings = some o
  | _ => False

/-- A token of a lexeme is a combinator, a text, the scope that the lexeme opens, or a condition of
the operator that it names. -/
theorem token_cases (h : l.tokens n = .ok ts) (ht : t ∈ ts) :
    (t = .pipe ∨ t = .plus ∨ (∃ g, t = .group g) ∨ ∃ s g, t = .inScope s g) ∨
      (∃ s, t = .scopeStart s ∧ openedScope? l.text = some s) ∨
      ∃ c, t = .condition c ∧ l.Names c.operator := by
  have htext : ∀ {us : List Token}, IsText us → t ∈ us → ∃ g, t = .group g := by
    intro us hus hmem
    obtain ⟨leaf, hleaf⟩ := hus.eq_group hmem
    exact ⟨_, hleaf⟩
  cases means_of_tokens h with
  | pipe => exact Or.inl (Or.inl (List.mem_singleton.1 ht))
  | plus => exact Or.inl (Or.inr (Or.inl (List.mem_singleton.1 ht)))
  | bare => exact Or.inl (Or.inr (Or.inr (Or.inl (htext (isText_bareTokens _ _ _) ht))))
  | unknown => exact Or.inl (Or.inr (Or.inr (Or.inl (htext (isText_wordTokens _ _) ht))))
  | inside =>
      obtain ⟨g, hg, -⟩ := mem_scopeTokens ht
      exact Or.inl (Or.inr (Or.inr (Or.inr ⟨_, g, hg⟩)))
  | opened hs => exact Or.inr (Or.inl ⟨_, List.mem_singleton.1 ht, hs⟩)
  | listed hs => exact Or.inr (Or.inr ⟨_, List.mem_singleton.1 ht, Or.inl hs⟩)
  | attached hs => exact Or.inr (Or.inr ⟨_, List.mem_singleton.1 ht, Or.inr (Or.inr (Or.inl hs))⟩)
  | dated hs =>
      obtain ⟨lower, upper, -, hcondition⟩ := mem_intervalTokens ht
      exact Or.inr (Or.inr ⟨_, hcondition, Or.inr (Or.inl hs)⟩)
  | counted hs =>
      obtain ⟨lower, upper, -, hcondition⟩ := mem_intervalTokens ht
      exact Or.inr (Or.inr ⟨_, hcondition, Or.inr (Or.inr (Or.inr hs))⟩)

theorem sequence_notMem_tokens (h : l.tokens n = .ok ts) (gs : List Group) :
    .sequence gs ∉ ts := by
  intro ht
  rcases token_cases h ht with (e | e | ⟨g, e⟩ | ⟨s, g, e⟩) | ⟨s, e, -⟩ | ⟨c, e, -⟩ <;> cases e

/-! ### Texts of bodies -/

theorem mem_leaves_wordTokens (h : leaf ∈ (wordTokens excluded s).flatMap Token.leaves) :
    s ≠ [] ∧ leaf = ⟨excluded, false, String.ofList s⟩ := by
  unfold wordTokens at h
  split at h
  · cases h
  · rename_i hne
    exact ⟨hne, List.mem_singleton.1 h⟩

/-- The text of a body by itself is a phrase that is not blank, or its word, if anything is left of
it. -/
theorem mem_leaves_bareTokens (h : leaf ∈ (bareTokens n excluded body).flatMap Token.leaves) :
    (∃ phrase ∈ body.phrase?, strip phrase ≠ [] ∧
        leaf = ⟨excluded, true, String.ofList phrase⟩) ∨
      trim n body.plainWord ≠ [] ∧
        leaf = ⟨excluded, false, String.ofList (trim n body.plainWord)⟩ := by
  unfold bareTokens at h
  split at h
  · rename_i phrase hphrase
    split at h
    · cases h
    · rename_i hne
      exact Or.inl ⟨phrase, hphrase, hne, List.mem_singleton.1 h⟩
  · exact Or.inr (mem_leaves_wordTokens h)

theorem mem_leaves_scopeTokens
    (h : leaf ∈ (scopeTokens n excluded scope body).flatMap Token.leaves) :
    (∃ phrase ∈ body.phrase?, leaf = ⟨excluded, true, String.ofList phrase⟩) ∨
      ∃ w ∈ words n body.plainWord, leaf = ⟨excluded, false, String.ofList w⟩ := by
  unfold scopeTokens at h
  split at h
  · rename_i phrase hphrase
    exact Or.inl ⟨phrase, hphrase, List.mem_singleton.1 h⟩
  · right
    dsimp only at h
    split at h
    · cases h
    · split at h
      all_goals simpa [Token.leaves, List.flatMap_map, eq_comm] using h

/-! ### Several lexemes -/

theorem lexemesTokens_append (n : Int) (ls ls' : List Lexeme) :
    lexemesTokens n (ls ++ ls') = do
      let us ← lexemesTokens n ls
      let vs ← lexemesTokens n ls'
      return us ++ vs := by
  induction ls with
  | nil =>
      rw [List.nil_append]
      cases lexemesTokens n ls' <;> rfl
  | cons l ls ih =>
      rw [List.cons_append, lexemesTokens, ih, lexemesTokens]
      cases l.tokens n with
      | error e => rfl
      | ok ts =>
          cases lexemesTokens n ls with
          | error e => rfl
          | ok us =>
              cases lexemesTokens n ls' with
              | error e => rfl
              | ok vs => exact congrArg Except.ok (List.append_assoc ts us vs).symm

theorem lexemesTokens_append_eq_ok {ls ls' : List Lexeme} :
    lexemesTokens n (ls ++ ls') = .ok ts ↔ ∃ us vs, lexemesTokens n ls = .ok us ∧
      lexemesTokens n ls' = .ok vs ∧ ts = us ++ vs := by
  simp only [lexemesTokens_append, bind_eq_ok]
  constructor
  · rintro ⟨us, hus, vs, hvs, h⟩
    cases h
    exact ⟨us, vs, hus, hvs, rfl⟩
  · rintro ⟨us, vs, hus, hvs, rfl⟩
    exact ⟨us, hus, vs, hvs, rfl⟩

theorem exists_tokens_of_mem (h : lexemesTokens n ls = .ok ts) (hl : l ∈ ls) :
    ∃ us, l.tokens n = .ok us ∧ ∀ t ∈ us, t ∈ ts := by
  obtain ⟨before, after, rfl⟩ := List.append_of_mem hl
  obtain ⟨us, vs, -, hvs, rfl⟩ := lexemesTokens_append_eq_ok.1 h
  obtain ⟨ws, hws, hvs⟩ := bind_eq_ok.1 hvs
  obtain ⟨xs, -, hvs⟩ := bind_eq_ok.1 hvs
  cases hvs
  exact ⟨ws, hws, fun t ht => List.mem_append_right _ (List.mem_append_left _ ht)⟩

/-! ### The comment scope -/

theorem leaves_openCommentScope (o : Operator) (ts : List Token) :
    (openCommentScope o ts).flatMap Token.leaves = ts.flatMap Token.leaves := by
  rcases openCommentScope_cases o ts with ⟨-, h⟩ | ⟨before, t, after, rfl, -, ht, h⟩
  · rw [h]
  · rcases h with ⟨-, h⟩ | ⟨-, h⟩ | ⟨s, -, -, h⟩
    · rw [h]
      rfl
    · rw [h]
    · obtain ⟨c, rfl, -⟩ := isCondition_iff.1 ht
      rw [h, List.flatMap_append, List.flatMap_append]
      rfl

theorem leaves_applyCommentScope (ts : List Token) :
    (applyCommentScope ts).flatMap Token.leaves = ts.flatMap Token.leaves :=
  (leaves_openCommentScope _ _).trans (leaves_openCommentScope _ _)

/-! ### Parsed queries -/

/-- A parsed query is what its lexemes fold to, with the comment scope and without sequences. -/
theorem exists_scanned (h : parse query n = .ok ts) :
    ∃ us, lexemesTokens n (lexemes (normalize query.toList)) = .ok us ∧
      ts = foldCombinators (applyCommentScope us) ∧ ∀ gs, .sequence gs ∉ applyCommentScope us := by
  obtain ⟨us, hus, rfl⟩ := map_eq_ok.1 h
  refine ⟨us, hus, rfl, fun gs hmem => ?_⟩
  rcases mem_applyCommentScope hmem with hstart | hmem
  · cases hstart
  · obtain ⟨l, -, vs, hl, hvs⟩ := mem_lexemesTokens hus hmem
    exact sequence_notMem_tokens hl gs hvs

theorem mem_leaves_parse (h : parse query n = .ok ts) :
    leaf ∈ ts.flatMap Token.leaves ↔ ∃ l ∈ lexemes (normalize query.toList), ∃ us,
      l.tokens n = .ok us ∧ leaf ∈ us.flatMap Token.leaves := by
  obtain ⟨vs, hvs, rfl, hsequence⟩ := exists_scanned h
  rw [leaves_foldCombinators hsequence, leaves_applyCommentScope]
  simp only [List.mem_flatMap]
  constructor
  · rintro ⟨t, ht, hleaf⟩
    obtain ⟨l, hl, us, hus, ht⟩ := mem_lexemesTokens hvs ht
    exact ⟨l, hl, us, hus, t, ht, hleaf⟩
  · rintro ⟨l, hl, us, hus, t, ht, hleaf⟩
    obtain ⟨us', hus', hmem⟩ := exists_tokens_of_mem hvs hl
    cases hus.symm.trans hus'
    exact ⟨t, hmem t ht, hleaf⟩

end PostSearch.Query
