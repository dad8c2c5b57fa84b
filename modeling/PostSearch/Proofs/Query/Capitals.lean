import PostSearch.Proofs.Query.Blanks
import PostSearch.Proofs.Query.Cutting
import PostSearch.Proofs.Query.Stray
import PostSearch.Proofs.Unicode.Lowercase

/-! # Capital letters

Queries are searched for in lower case, and what is cut out of them and stripped has no capitals
either. But quotations are read after that, and the escapes in them may stand for capitals: these
are in the texts and arguments of a query unless the comment scope drops them
(`parseWith_folded_iff`). -/

namespace PostSearch.Query

open PostSearch.Interval Unicode

variable {n : Int} {l : Lexeme} {s t : List Char} {ts : List Token} {c : Char} {excluded : Bool}
  {body : Body} {d : Date}

/-- The text has no capital letters of ASCII. -/
def IsFolded (s : List Char) : Prop :=
  ∀ c ∈ s, c.isUpper = false

def Token.values : Token → List String
  | .condition c => c.args
  | t => t.leaves.map Leaf.value

def Token.IsFolded (t : Token) : Prop :=
  ∀ v ∈ t.values, Query.IsFolded v.toList

/-- The lexeme is a quotation with capitals among its escapes, and it is read: it has no name, or
one that takes texts or a list of words. -/
def Lexeme.EscapesCapital : Lexeme → Prop
  | .term _ name (.quoted inner) => ¬ Query.IsFolded (unquote inner) ∧ ∀ n ∈ name,
      (spelled? n listSpellings).isSome ∨ (spelled? n scopeSpellings).isSome
  | _ => False

/-! ### Parts of texts -/

theorem IsFolded.mono (h : IsFolded s) (hsub : ∀ c ∈ t, c ∈ s ∨ c.isUpper = false) : IsFolded t :=
  fun c hc => (hsub c hc).elim (h c) id

theorem mem_trim (h : c ∈ trim n s) : c ∈ s ∨ c.isUpper = false := by
  unfold trim at h
  split at h
  · rcases List.mem_append.1 h with h | h
    · exact Or.inl (of_mem_stripWhere h)
    · rw [List.mem_singleton.1 h]
      exact Or.inr (by decide)
  · exact Or.inl (of_mem_stripWhere h)

theorem mem_phraseOf (h : c ∈ phraseOf s) : c ∈ s ∨ c.isUpper = false := by
  unfold phraseOf at h
  split at h
  · obtain ⟨d, hd, rfl⟩ := List.mem_map.1 h
    split
    · exact Or.inr (by decide)
    · exact Or.inl hd
  · exact Or.inl h

theorem IsFolded.trim (h : IsFolded s) (n : Int) : IsFolded (trim n s) :=
  h.mono fun _ => mem_trim

theorem IsFolded.phraseOf (h : IsFolded s) : IsFolded (phraseOf s) :=
  h.mono fun _ => mem_phraseOf

theorem IsFolded.words (h : IsFolded s) {w : List Char} (hw : w ∈ words n s) : IsFolded w := by
  obtain ⟨hw, -⟩ := List.mem_filter.1 hw
  obtain ⟨piece, hpiece, rfl⟩ := List.mem_map.1 hw
  exact IsFolded.trim (fun c hc => h c (Text.exists_mem_splitAt.1 ⟨piece, hpiece, hc⟩).1) n

theorem IsFolded.fileTypes (h : IsFolded s) {w : List Char} (hw : w ∈ fileTypes s) :
    IsFolded w := by
  obtain ⟨piece, hpiece, hw⟩ := List.mem_filterMap.1 hw
  have hstrip : IsFolded (strip piece) := fun c hc =>
    h c (Text.exists_mem_splitAt.1 ⟨piece, hpiece, of_mem_stripWhere hc⟩).1
  have hsingular : ∀ c ∈ singular (strip piece), c ∈ strip piece := by
    intro c hc
    unfold singular at hc
    split at hc
    · exact (List.dropLast_sublist _).subset hc
    · exact hc
  unfold fileType? at hw
  dsimp only at hw
  split at hw
  · cases hw
    exact hstrip
  · split at hw
    · cases hw
      exact fun c hc => hstrip c (hsingular c hc)
    · cases hw

/-! ### Capitals that stay -/

/-- Capitals are not stripped. -/
theorem isAlphanumeric_of_isUpper (h : c.isUpper = true) : isAlphanumeric c = true := by
  have hascii : ∀ c : Char, c.toNat < 128 → c.isUpper = true → isAlphanumeric c = true := by
    refine forall_ascii fun k hk hupper => ?_
    rw [isAlphanumeric_ascii k hk, Char.isAlphanum, Char.isAlpha, hupper]
    rfl
  obtain ⟨-, hlast⟩ := isUpper_iff.1 h
  exact hascii c (by omega) h

theorem mem_trim_of_isUpper (h : c.isUpper = true) (hc : c ∈ s) : c ∈ trim n s := by
  have hcore : c ∈ core s := by
    refine (mem_stripWhere ?_).2 hc
    rw [isAlphanumeric_of_isUpper h]
    rfl
  unfold trim
  split
  · exact List.mem_append_left _ hcore
  · exact hcore

theorem not_isFolded_iff : ¬ IsFolded s ↔ ∃ c ∈ s, c.isUpper = true := by
  simp [IsFolded]

theorem not_isFolded_phraseOf (h : ¬ IsFolded s) : ¬ IsFolded (phraseOf s) := by
  obtain ⟨c, hc, hupper⟩ := not_isFolded_iff.1 h
  have hne : c ≠ '-' := by
    rintro rfl
    exact absurd hupper (by decide)
  refine not_isFolded_iff.2 ⟨c, ?_, hupper⟩
  unfold phraseOf
  split
  · exact List.mem_map.2 ⟨c, hc, if_neg hne⟩
  · exact hc

theorem exists_word (h : ¬ IsFolded s) : ∃ w ∈ words n s, ¬ IsFolded w := by
  obtain ⟨c, hc, hupper⟩ := not_isFolded_iff.1 h
  have hne : c ≠ ',' := by
    rintro rfl
    exact absurd hupper (by decide)
  obtain ⟨piece, hpiece, hmem⟩ := Text.exists_mem_splitAt.2 ⟨hc, hne⟩
  have hword := mem_trim_of_isUpper (n := n) hupper hmem
  refine ⟨trim n piece, List.mem_filter.2 ⟨List.mem_map_of_mem hpiece, ?_⟩, ?_⟩
  · exact decide_eq_true (List.ne_nil_of_mem hword)
  · exact not_isFolded_iff.2 ⟨c, hword, hupper⟩

theorem strip_ne_nil (h : ¬ IsFolded s) : strip s ≠ [] := by
  obtain ⟨c, hc, hupper⟩ := not_isFolded_iff.1 h
  have hblank : isBlank c = false := Bool.eq_false_iff.2 fun hblank => by
    have := isAlphanumeric_of_isUpper hupper
    rw [isAlphanumeric_of_isBlank hblank] at this
    cases this
  exact List.ne_nil_of_mem ((mem_stripWhere hblank).2 hc)

theorem Token.not_isFolded {t : Token} (h : ¬ Query.IsFolded s)
    (hs : String.ofList s ∈ t.values) : ¬ t.IsFolded := by
  intro hfolded
  have := hfolded _ hs
  rw [String.toList_ofList] at this
  exact h this

/-! ### Bounds -/

theorem isFolded_digits (k : Nat) : IsFolded (Numeral.natDigits k) := by
  intro c hc
  obtain ⟨-, hlast⟩ := Numeral.isDigit_iff.1
    (Nat.isDigit_of_mem_toDigits (by decide) (by decide) hc)
  rw [Bool.eq_false_iff, ne_eq, isUpper_iff]
  omega

theorem isFolded_count {text : String} (h : IsCountText text) : IsFolded text.toList := by
  obtain ⟨k, -, -, rfl⟩ := h
  rw [← ofList_intDigits, String.toList_ofList, Numeral.intDigits]
  split
  · exact List.forall_mem_cons.2 ⟨by decide, isFolded_digits _⟩
  · exact isFolded_digits _

theorem isFolded_day {text : String} (h : IsDayText text) : IsFolded text.toList := by
  have hpadded : ∀ width k, IsFolded (Numeral.padded width k) := by
    intro width k c hc
    rcases List.mem_append.1 hc with hc | hc
    · rw [List.eq_of_mem_replicate hc]
      decide
    · exact isFolded_digits k c hc
  obtain ⟨d, -, rfl⟩ := h
  rw [String.toList_ofList, Date.text]
  intro c hc
  simp only [List.mem_append, List.mem_cons] at hc
  rcases hc with (hc | rfl | hc) | rfl | hc
  · exact hpadded _ _ c hc
  · decide
  · exact hpadded _ _ c hc
  · decide
  · exact hpadded _ _ c hc

theorem isFolded_bounds {Q : String → Prop} {lower upper : String} (h : AreBounds Q [lower, upper])
    (hfolded : ∀ text, Q text → IsFolded text.toList) (o : Operator) :
    (Token.condition ⟨excluded, o, [lower, upper]⟩).IsFolded := by
  have hempty : IsFolded "".toList := nofun
  have hbound : ∀ {text : String}, text = "" ∨ Q text → IsFolded text.toList := by
    rintro text (rfl | htext)
    · exact hempty
    · exact hfolded _ htext
  obtain ⟨lower', upper', e, -, hlower, hupper⟩ := h
  cases e
  intro v hv
  simp only [Token.values, List.mem_cons, List.not_mem_nil, or_false] at hv
  rcases hv with rfl | rfl
  · exact hbound hlower
  · exact hbound hupper

/-! ### Tokens of lexemes -/

theorem isFolded_words {o : Operator} {ws : List (List Char)} (h : ∀ w ∈ ws, IsFolded w) :
    (Token.condition ⟨excluded, o, ws.map String.ofList⟩).IsFolded := by
  intro v hv
  obtain ⟨w, hw, rfl⟩ := List.mem_map.1 hv
  rw [String.toList_ofList]
  exact h w hw

theorem isFolded_wordTokens (h : IsFolded s) : ∀ t ∈ wordTokens excluded s, t.IsFolded := by
  unfold wordTokens
  split
  · exact nofun
  · simpa [Token.IsFolded, Token.values, Token.leaves] using h

theorem isFolded_plainWord (h : IsFolded body.text) : IsFolded body.plainWord := by
  cases body with
  | quoted inner => exact nofun
  | word w =>
      simp only [Body.plainWord]
      split
      · exact nofun
      · exact h

/-- The quotation in a body has no capitals among its escapes. -/
def Body.IsPlain : Body → Prop
  | .quoted inner => Query.IsFolded (unquote inner)
  | .word _ => True

theorem isFolded_phrase (h : IsFolded body.text) (hplain : body.IsPlain) :
    ∀ phrase ∈ body.phrase?, IsFolded phrase := by
  intro phrase hphrase
  cases body with
  | quoted inner =>
      cases hphrase
      exact IsFolded.phraseOf hplain
  | word w =>
      simp only [Body.phrase?] at hphrase
      split at hphrase
      · cases hphrase
        exact IsFolded.phraseOf h
      · cases hphrase

theorem isFolded_listed (h : IsFolded body.text) (hplain : body.IsPlain) :
    IsFolded body.listed := by
  cases body with
  | quoted inner => exact IsFolded.phraseOf hplain
  | word w => exact h

theorem isFolded_bareTokens (h : IsFolded body.text) (hplain : body.IsPlain) :
    ∀ t ∈ bareTokens n excluded body, t.IsFolded := by
  unfold bareTokens
  split
  · rename_i phrase hphrase
    split
    · exact nofun
    · simpa [Token.IsFolded, Token.values, Token.leaves] using isFolded_phrase h hplain _ hphrase
  · exact isFolded_wordTokens ((isFolded_plainWord h).trim n)

theorem isFolded_scopeTokens {scope : Scope} (h : IsFolded body.text) (hplain : body.IsPlain) :
    ∀ t ∈ scopeTokens n excluded scope body, t.IsFolded := by
  intro t ht v hv
  obtain ⟨g, rfl, -⟩ := mem_scopeTokens ht
  obtain ⟨leaf, hleaf, rfl⟩ := List.mem_map.1 hv
  rcases mem_leaves_scopeTokens (List.mem_flatMap.2 ⟨_, ht, hleaf⟩) with
    ⟨phrase, hphrase, rfl⟩ | ⟨w, hw, rfl⟩
  · rw [String.toList_ofList]
    exact isFolded_phrase h hplain phrase hphrase
  · rw [String.toList_ofList]
    exact (isFolded_plainWord h).words hw

theorem isFolded_body {name : Option (List Char)}
    (h : IsFolded (Lexeme.term excluded name body).text) : IsFolded body.text :=
  fun c hc => h c (List.mem_append_right _ hc)

/-- A body that is read has no escaped capitals if its lexeme has none. -/
theorem isPlain_of_not_escapesCapital {name : Option (List Char)}
    (h : ¬ (Lexeme.term excluded name body).EscapesCapital)
    (hname : ∀ n ∈ name, (spelled? n listSpellings).isSome ∨ (spelled? n scopeSpellings).isSome) :
    body.IsPlain := by
  cases body with
  | quoted inner =>
      by_contra hinner
      exact h ⟨hinner, hname⟩
  | word w => trivial

theorem isFolded_tokens (hl : l.tokens n = .ok ts) (htext : IsFolded l.text)
    (h : ¬ l.EscapesCapital) : ∀ t ∈ ts, t.IsFolded := by
  cases means_of_tokens hl with
  | pipe | plus | opened => exact fun t ht => List.mem_singleton.1 ht ▸ nofun
  | bare =>
      exact isFolded_bareTokens (isFolded_body htext) (isPlain_of_not_escapesCapital h nofun)
  | unknown => exact isFolded_wordTokens (htext.trim n)
  | listed hs =>
      have hplain := isPlain_of_not_escapesCapital h fun _ e =>
        Or.inl (Option.some.inj e ▸ Option.isSome_of_eq_some hs)
      rw [List.forall_mem_singleton]
      exact isFolded_words fun w => (isFolded_listed (isFolded_body htext) hplain).words
  | inside hs =>
      have hplain := isPlain_of_not_escapesCapital h fun _ e =>
        Or.inr (Option.some.inj e ▸ Option.isSome_of_eq_some hs)
      exact isFolded_scopeTokens (isFolded_body htext) hplain
  | attached hs =>
      rw [List.forall_mem_singleton]
      exact isFolded_words fun w => (isFolded_plainWord (isFolded_body htext)).fileTypes
  | dated hs =>
      intro t ht
      obtain ⟨lower, upper, hbounds, rfl⟩ := mem_intervalTokens ht
      exact isFolded_bounds (areBounds_dayTexts hbounds) (fun _ => isFolded_day) _
  | counted hs hbounds =>
      intro t ht
      obtain ⟨lower, upper, rfl, rfl⟩ := mem_intervalTokens ht
      exact isFolded_bounds (areBounds_countTexts hbounds) (fun _ => isFolded_count) _

theorem exists_capital (hl : l.tokens n = .ok ts) (h : l.EscapesCapital) :
    ∃ t ∈ ts, ¬ t.IsFolded := by
  match l, h with
  | .term excluded name (.quoted inner), ⟨hinner, hname⟩ =>
      have hphrase := not_isFolded_phraseOf hinner
      cases name with
      | none =>
          simp only [Lexeme.tokens, openedScope?_quoted, bareTokens, Body.phrase?,
            if_neg (strip_ne_nil hphrase)] at hl
          cases hl
          exact ⟨_, List.mem_singleton_self _, Token.not_isFolded hphrase List.mem_cons_self⟩
      | some name =>
          rcases hname name rfl with hs | hs
          · obtain ⟨o, hs⟩ := Option.isSome_iff_exists.1 hs
            simp only [Lexeme.tokens, openedScope?_quoted, namedTokens, hs] at hl
            cases hl
            obtain ⟨w, hw, hcapital⟩ := exists_word hphrase
            exact ⟨_, List.mem_singleton_self _,
              Token.not_isFolded hcapital (List.mem_map_of_mem hw)⟩
          · obtain ⟨scope, hs⟩ := Option.isSome_iff_exists.1 hs
            simp only [Lexeme.tokens, openedScope?_quoted, namedTokens, spelled?_scope hs, hs,
              scopeTokens, Body.phrase?] at hl
            cases hl
            exact ⟨_, List.mem_singleton_self _, Token.not_isFolded hphrase List.mem_cons_self⟩

/-! ### Parsed queries -/

theorem isContent_values : IsContent Token.values where
  pipe := rfl
  plus := rfl
  sequence gss := by
    change ((gss.map List.flatten).flatten).map Leaf.value =
      gss.flatten.flatMap (List.map Leaf.value)
    rw [← List.flatten_flatten, List.map_flatten, List.flatMap]

theorem isFolded_lexeme {query : String} (hl : l ∈ lexemes (normalize query.toList)) :
    IsFolded l.text :=
  fun _ hc => isUpper_of_mem_lowercase (mem_of_mem_lexemes hl hc)

/-- A parsed query has no capitals but those that are escaped, unless they stand in the one
condition that the comment scope drops. -/
theorem parseWith_folded_iff {query : String} {minStem : Datum}
    (h : parseWith query minStem = .ok ts) :
    (∀ t ∈ ts, ∀ v ∈ t.values, ∀ c ∈ v.toList, c.isUpper = false) ↔
      ∀ before l after, lexemes (normalize query.toList) = before ++ l :: after →
        l.EscapesCapital → l.IsStray before := by
  obtain ⟨n, h⟩ := exists_parse_of_parseWith h
  obtain ⟨us, hus, rfl, hsequence⟩ := exists_scanned h
  have hvalues : ∀ ts : List Token, (∀ t ∈ ts, t.IsFolded) ↔
      ∀ v ∈ ts.flatMap Token.values, IsFolded v.toList := by
    intro ts
    simp only [Token.IsFolded, List.mem_flatMap]
    exact ⟨fun h v ⟨t, ht, hv⟩ => h t ht v hv, fun h t ht v hv => h v ⟨t, ht, hv⟩⟩
  have hcount : ∀ t ∈ us, t.isCondition .commentLikeCount = true → t.IsFolded := by
    intro t ht hcondition
    obtain ⟨l, -, vs, hl, ht⟩ := mem_lexemesTokens hus ht
    obtain ⟨⟨excluded, o, args⟩, rfl, rfl⟩ := isCondition_iff.1 hcondition
    cases unfolded_of_tokens hl _ ht with
    | wellFormed hwell =>
        cases hwell with
        | condition hknown hargs =>
            obtain ⟨lower, upper, rfl, -⟩ := id hargs
            exact isFolded_bounds hargs (fun _ => isFolded_count) _
  change (∀ t ∈ foldCombinators (applyCommentScope us), t.IsFolded) ↔ _
  rw [hvalues, isContent_values.foldCombinators hsequence, ← hvalues,
    forall_applyCommentScope_iff hus nofun hcount]
  have hmem : ∀ before l after, lexemes (normalize query.toList) = before ++ l :: after →
      l ∈ lexemes (normalize query.toList) :=
    fun _ _ _ hls => hls ▸ List.mem_append_right _ List.mem_cons_self
  constructor
  · intro hall before l after hls hescapes
    refine (hall before l after hls).resolve_left fun hfolded => ?_
    obtain ⟨ws, hws, -⟩ := exists_tokens_of_mem hus (hmem before l after hls)
    obtain ⟨t, ht, hcapital⟩ := exists_capital hws hescapes
    exact hcapital (hfolded ws hws t ht)
  · intro hall before l after hls
    by_cases hescapes : l.EscapesCapital
    · exact Or.inr (hall before l after hls hescapes)
    · have hfolded := isFolded_lexeme (hmem before l after hls)
      exact Or.inl fun ws hws => isFolded_tokens hws hfolded hescapes

/-- Capitals in names, arguments, quotations and words; what is escaped is a small letter. -/
theorem parseWith_folded_iff_letter :
    parseWith "From:Alice In-Body:\"C\\u0061t\" DOG" (.number 2) =
        .ok [.condition ⟨false, .postBy, ["alice"]⟩, .inScope .posts [⟨false, true, "cat"⟩],
          .sequence [[⟨false, false, "dog"⟩]]] ∧
      ∀ before l after,
        lexemes (normalize "From:Alice In-Body:\"C\\u0061t\" DOG".toList) = before ++ l :: after →
          l.EscapesCapital → l.IsStray before := by
  have h : parseWith "From:Alice In-Body:\"C\\u0061t\" DOG" (.number 2) =
      .ok [.condition ⟨false, .postBy, ["alice"]⟩, .inScope .posts [⟨false, true, "cat"⟩],
        .sequence [[⟨false, false, "dog"⟩]]] := by
    decide +kernel
  refine ⟨h, (parseWith_folded_iff h).1 ?_⟩
  decide

/-- The escape of a capital letter is looked for as the capital. -/
theorem escaped_capital_inBody : ¬ ∀ query minStem ts, parseWith query minStem = .ok ts →
    ∀ t ∈ ts, ∀ v ∈ t.values, ∀ c ∈ v.toList, c.isUpper = false := by
  have hescape : ∀ c ∈ "\\u0041".toList, c.toNat < 128 ∧ c.isUpper = false := by decide
  have hvalue : String.ofList (phraseOf (unquote "\\u0041".toList)) = "A" := by decide +kernel
  have h := parseWith_inBody (n := 2) hescape fun _ => rfl
  rw [hvalue] at h
  intro hall
  have hfolded := hall _ _ _ h
  revert hfolded
  decide

end PostSearch.Query
