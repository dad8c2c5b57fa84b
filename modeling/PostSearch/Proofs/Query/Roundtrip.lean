import PostSearch.Proofs.Query.Folding
import PostSearch.Proofs.Query.Pieces
import PostSearch.Proofs.Query.Written
import PostSearch.Proofs.Text.Split
import PostSearch.Proofs.Text.Strip

/-! # Parsing written queries

Leaves are read as single texts (`Leaf.scans`), and from them groups, blocks and items with their
combinators (`Item.scans`). Folding then takes the combinators away, pipes first
(`Item.folds_pipes`, `Item.folds_pluses`).

Main statement: parsing a written query gives exactly the tokens that are meant
(`parse_render`). -/

namespace PostSearch.Query.Written

open Unicode

variable {minStem : Int}

/-! ### Phrases -/

/-- The phrase between its quotes. -/
def Phrase.inner (p : Phrase) : List Char :=
  p.chars.flatMap Text.Json.escapeChar

theorem closeQuote?_escaped {s : List Char} (h : ∀ c ∈ s, isPhraseChar c = true)
    (rest : List Char) :
    closeQuote? (s.flatMap Text.Json.escapeChar ++ '"' :: rest) =
      some (s.flatMap Text.Json.escapeChar, rest) := by
  induction s with
  | nil => simp [closeQuote?]
  | cons c s ih =>
      obtain ⟨hc, hs⟩ := List.forall_mem_cons.1 h
      rw [List.flatMap_cons, escapeChar_phrase hc]
      split
      · rename_i hquote
        have hline : c ≠ '\n' := by rcases hquote with rfl | rfl <;> decide
        simp [closeQuote?, hline, ih hs]
      · rename_i hplain
        obtain ⟨hquote, hslash⟩ := not_or.1 hplain
        simp [closeQuote?, hslash, ih hs]

theorem unescape?_escaped {s : List Char} (h : ∀ c ∈ s, isPhraseChar c = true) :
    Text.JsonString.unescape? (s.flatMap Text.Json.escapeChar) = some s := by
  induction s with
  | nil => simp [Text.JsonString.unescape?]
  | cons c s ih =>
      obtain ⟨hc, hs⟩ := List.forall_mem_cons.1 h
      rw [List.flatMap_cons, escapeChar_phrase hc]
      split
      · rename_i hquote
        rcases hquote with rfl | rfl <;>
          simp [Text.JsonString.unescape?, Text.JsonString.simpleEscape?, ih hs]
      · rename_i hplain
        obtain ⟨hquote, hslash⟩ := not_or.1 hplain
        have hcontrol : ¬ c.toNat < 32 := by
          have := (isPhraseChar_iff.1 hc).1
          omega
        simp [Text.JsonString.unescape?, hquote, hslash, hcontrol, ih hs]

theorem hyphen_mem_of_isCanonical {s : List Char} (h : Uuid.isCanonical s = true) : '-' ∈ s := by
  obtain ⟨-, n, -, rfl⟩ := Uuid.isCanonical_iff.1 h
  simp [Uuid.format]

/-! ### Words -/

variable (w : Word)

theorem Word.isUnbroken : IsUnbroken w.chars :=
  fun c hc => (isPlainChar_spec (w.isPlain c hc)).2.1

theorem Word.not_mem {d : Char} (hd : d ∈ ['-', ':', '"', '*', ',', '|', '+']) : d ∉ w.chars :=
  fun h => (isPlainChar_spec (w.isPlain d h)).2.2.2 hd

theorem Word.core_eq : core w.chars = w.chars :=
  stripWhere_eq_self fun c hc => by
    rw [(isPlainChar_spec (w.isPlain c hc)).1]
    rfl

theorem Word.trim_eq : trim minStem w.chars = w.chars := by
  have hstar : hasStar w.chars = false := by
    unfold hasStar strip
    rw [stripWhere_eq_self w.isUnbroken, beq_eq_false_iff_ne]
    exact fun h => w.not_mem (by simp) (List.mem_of_getLast? h)
  unfold trim
  rw [if_neg (by simp [hstar]), w.core_eq]

theorem Word.core_stem : core (w.chars ++ ['*']) = w.chars := by
  have hplain : ∀ c ∈ w.chars, (!isAlphanumeric c) = false := fun c hc => by
    rw [(isPlainChar_spec (w.isPlain c hc)).1]
    rfl
  have hstar : (!isAlphanumeric '*') = true := by decide +kernel
  obtain ⟨c, cs, hw⟩ := List.exists_cons_of_ne_nil w.ne_nil
  have hc : (!isAlphanumeric c) = false := hplain c (by simp [hw])
  have hfront : (w.chars ++ ['*']).dropWhile (fun c => !isAlphanumeric c) = w.chars ++ ['*'] := by
    rw [hw, List.cons_append, List.dropWhile_cons, if_neg (by simp [hc])]
  have hcore := w.core_eq
  unfold core stripWhere dropWhileEnd at hcore ⊢
  rw [hfront, List.reverse_concat, List.dropWhile_cons, if_pos hstar]
  rwa [hw, List.dropWhile_cons, if_neg (by simp [hc]), ← hw] at hcore

theorem Word.trim_stem (h : minStem ≤ w.chars.length) :
    trim minStem (w.chars ++ ['*']) = w.chars ++ ['*'] := by
  have hstar : hasStar (w.chars ++ ['*']) = true := by
    unfold hasStar strip
    rw [stripWhere_eq_self fun c hc => ?_, List.getLast?_concat]
    · rfl
    · rcases List.mem_append.1 hc with hc | hc
      · exact w.isUnbroken c hc
      · rw [List.mem_singleton.1 hc]
        decide
  unfold trim
  rw [w.core_stem, if_pos ⟨hstar, w.ne_nil, h⟩]

/-! ### Lists of words -/

theorem joined_cons (w v : Word) (ws : List Word) :
    (Text.joinWith "," ((w :: v :: ws).map Word.text)).toList =
      w.chars ++ ',' :: (Text.joinWith "," ((v :: ws).map Word.text)).toList := by
  simp [Text.joinWith, Word.text]

theorem splitAt_joined : ∀ {ws : List Word}, ws ≠ [] →
    Text.splitAt ',' (Text.joinWith "," (ws.map Word.text)).toList = ws.map Word.chars
  | [w], _ => by
      simp [Text.joinWith, Word.text, Text.splitAt_of_not_mem (w.not_mem (d := ',') (by simp))]
  | w :: v :: ws, _ => by
      rw [joined_cons, Text.splitAt_append (w.not_mem (by simp)),
        splitAt_joined (List.cons_ne_nil v ws)]
      rfl

variable (ws : NonemptyList Word)

theorem words_args : words minStem (renderArgs ws).toList = ws.val.map Word.chars := by
  unfold words renderArgs
  rw [splitAt_joined ws.property, List.map_map, List.map_congr_left fun w _ => w.trim_eq,
    List.filter_eq_self]
  intro s hs
  obtain ⟨w, -, rfl⟩ := List.mem_map.1 hs
  exact decide_eq_true w.ne_nil

theorem mem_joined {c : Char} : ∀ {ws : List Word},
    c ∈ (Text.joinWith "," (ws.map Word.text)).toList → c = ',' ∨ ∃ w ∈ ws, c ∈ w.chars
  | [], h => by simp [Text.joinWith] at h
  | [w], h => Or.inr ⟨w, List.mem_cons_self, by simpa [Text.joinWith, Word.text] using h⟩
  | w :: v :: ws, h => by
      rw [joined_cons, List.mem_append, List.mem_cons] at h
      rcases h with h | h | h
      · exact Or.inr ⟨w, List.mem_cons_self, h⟩
      · exact Or.inl h
      · rcases mem_joined h with h | ⟨u, hu, h⟩
        · exact Or.inl h
        · exact Or.inr ⟨u, List.mem_cons_of_mem _ hu, h⟩

theorem args_ne_nil : (renderArgs ws).toList ≠ [] := by
  intro h
  have hsplit := splitAt_joined ws.property
  unfold renderArgs at h
  rw [h, Text.splitAt] at hsplit
  have hnil : [] ∈ ws.val.map Word.chars := hsplit ▸ List.mem_cons_self
  obtain ⟨w, -, hw⟩ := List.mem_map.1 hnil
  exact w.ne_nil hw

theorem args_isUnbroken : IsUnbroken (renderArgs ws).toList := by
  intro c hc
  rcases mem_joined hc with rfl | ⟨w, -, hw⟩
  · decide
  · exact w.isUnbroken c hw

theorem not_mem_args {d : Char} (hd : d ∈ ['-', ':', '"']) : d ∉ (renderArgs ws).toList := by
  intro h
  rcases mem_joined h with rfl | ⟨w, -, hw⟩
  · simp at hd
  · refine w.not_mem ?_ hw
    simp only [List.mem_cons, List.not_mem_nil, or_false] at hd ⊢
    tauto

/-! ### Leaves -/

variable {excluded : Bool}

theorem scans_word {s : List Char} (hbegins : Begins s) (hs : IsUnbroken s)
    (hnot : ∀ d ∈ ['-', ':', '"'], d ∉ s) (htrim : trim minStem s = s) :
    Scans minStem ((exclusionMark excluded).toList ++ s)
      [.group [⟨excluded, false, String.ofList s⟩]] := by
  have hne : s ≠ [] := hbegins.1
  have hcolon : ':' ∉ s := hnot ':' (by simp)
  refine Scans.term none (.word s) hbegins
    (fun rest hr => named?_word hne hs hcolon (hnot '"' (by simp)) hr) ?_
  have hlast : (Lexeme.term excluded none (.word s)).text.getLast? ≠ some ':' := by
    rw [text_getLast? (.word s) hne]
    exact fun h => hcolon (List.mem_of_getLast? h)
  have huuid : ¬ Uuid.isCanonical s = true := fun h =>
    hnot '-' (by simp) (hyphen_mem_of_isCanonical h)
  simp only [Lexeme.tokens, openedScope?_of_last hlast, bareTokens, Body.phrase?, Body.plainWord,
    if_neg huuid, htrim, wordTokens, if_neg hne]

theorem Word.begins_append (t : List Char) : Begins (w.chars ++ t) := by
  refine Begins.append ⟨w.ne_nil, fun c hc => ?_⟩ t
  obtain ⟨-, hblank, -, hmarks⟩ := isPlainChar_spec (w.isPlain c (List.mem_of_head? hc))
  refine ⟨hblank, fun h => hmarks ?_⟩
  simp only [List.mem_cons, List.not_mem_nil, or_false] at h ⊢
  tauto

theorem scans_phrase (p : Phrase) :
    Scans minStem ((exclusionMark excluded).toList ++ (Text.Json.quoteString p.text).toList)
      [.group [⟨excluded, true, p.text⟩]] := by
  have htext : (Text.Json.quoteString p.text).toList = (Body.quoted p.inner).text := by
    simp [Text.Json.quoteString, Phrase.text, Phrase.inner, Body.text]
  rw [htext]
  have hphrase : phraseOf (unquote p.inner) = p.chars := by
    unfold unquote Phrase.inner
    rw [unescape?_escaped p.isPrintable, Option.getD_some, phraseOf, p.not_uuid]
    rfl
  have hblank : strip p.chars ≠ [] := fun h => by
    obtain ⟨c, hc, hne⟩ := p.not_blank
    have := stripWhere_eq_nil.1 h c hc
    rw [isBlank_of_phraseChar (p.isPrintable c hc) hne] at this
    cases this
  have htokens : bareTokens minStem excluded (.quoted p.inner) =
      [.group [⟨excluded, true, p.text⟩]] := by
    simp only [bareTokens, Body.phrase?, hphrase, if_neg hblank]
    rfl
  rw [← htokens]
  exact Scans.quoted (closeQuote?_escaped p.isPrintable)

theorem Leaf.scans (l : Leaf minStem) : Scans minStem l.render.toList [.group [l.leaf]] := by
  have hchars : ∀ d ∈ ['-', ':', '"'], d ∈ ['-', ':', '"', '*', ',', '|', '+'] := by decide
  obtain ⟨excluded, term⟩ := l
  unfold Leaf.render Leaf.leaf
  rw [String.toList_append]
  cases term with
  | word w =>
      simp only [Term.render, Word.text, String.toList_ofList]
      have hbegins := w.begins_append []
      rw [List.append_nil] at hbegins
      exact scans_word hbegins w.isUnbroken (fun d hd => w.not_mem (hchars d hd)) w.trim_eq
  | stem w hlong =>
      have htext : (w.text ++ "*").toList = w.chars ++ ['*'] := by simp [Word.text]
      have hof : w.text ++ "*" = String.ofList (w.chars ++ ['*']) := by
        rw [← String.toList_inj, htext, String.toList_ofList]
      simp only [Term.render]
      rw [htext, hof]
      refine scans_word (w.begins_append _) ?_ ?_ (w.trim_stem hlong)
      · intro c hc
        rcases List.mem_append.1 hc with hc | hc
        · exact w.isUnbroken c hc
        · rw [List.mem_singleton.1 hc]
          decide
      · intro d hd h
        rcases List.mem_append.1 h with h | h
        · exact w.not_mem (hchars d hd) h
        · rw [List.mem_singleton.1 h] at hd
          exact absurd hd (by decide)
  | phrase p => exact scans_phrase p

/-! ### Items -/

/-- Tokens of a group before folding. -/
def pipedTokens (g : NonemptyList (Leaf minStem)) : List Token :=
  [Token.pipe].intercalate (g.val.map fun l => [.group [l.leaf]])

/-- Tokens of a block before folding. -/
def blockTokens (b : Block minStem) : List Token :=
  [Token.plus].intercalate (b.val.map pipedTokens)

/-- Tokens of an item before folding. -/
def Item.scanned : Item minStem → List Token
  | .block b => blockTokens b
  | i => [i.token]

theorem scans_block (b : Block minStem) : Scans minStem (renderBlock b).toList (blockTokens b) := by
  refine scans_joinWith ?_ fun g _ => scans_joinWith ?_ fun l _ => l.scans
  · intro s t ts us hs ht
    simpa using (hs.append Scans.plus).append ht
  · intro s t ts us hs ht
    simpa using (hs.append Scans.pipe).append ht

/-- A name with a list of words is read as what the name says of them. -/
theorem scans_args {name : String} {ts : List Token} (hbegins : Begins name.toList)
    (hname : ∀ c ∈ name.toList, isNameChar c = true)
    (ht : ∀ raw, namedTokens minStem excluded name.toList (.word (renderArgs ws).toList) raw =
      .ok ts) :
    Scans minStem (exclusionMark excluded ++ name ++ ":" ++ renderArgs ws).toList ts := by
  have htext : (exclusionMark excluded ++ name ++ ":" ++ renderArgs ws).toList =
      (exclusionMark excluded).toList ++ (name.toList ++ ':' :: (renderArgs ws).toList) := by
    simp
  rw [htext]
  exact Scans.named hbegins hname (args_ne_nil ws) (args_isUnbroken ws)
    (fun h => not_mem_args ws (by simp) (List.mem_of_head? h))
    (fun h => not_mem_args ws (by simp) (List.mem_of_getLast? h)) (ht _)

theorem spelled?_part (part : Part) : spelled? part.name.toList listSpellings = none ∧
    spelled? part.name.toList scopeSpellings = some part.scope := by
  cases part <;> decide

theorem spelled?_operator : ∀ o ∈ listOperators,
    spelled? o.name.toList listSpellings = some o := by
  decide

theorem begins_part (part : Part) : Begins part.name.toList := by
  cases part <;> decide

theorem isNameChar_part (part : Part) : ∀ c ∈ part.name.toList, isNameChar c = true := by
  cases part <;> decide +kernel

theorem phrase?_args : (Body.word (renderArgs ws).toList).phrase? = none ∧
    (Body.word (renderArgs ws).toList).plainWord = (renderArgs ws).toList := by
  have huuid : ¬ Uuid.isCanonical (renderArgs ws).toList = true := fun h =>
    not_mem_args ws (by simp) (hyphen_mem_of_isCanonical h)
  exact ⟨if_neg huuid, if_neg huuid⟩

theorem scans_inScope (part : Part) : Scans minStem (part.name ++ ":" ++ renderArgs ws).toList
    [.inScope part.scope (ws.val.map fun w => ⟨false, false, w.text⟩)] := by
  have htext : part.name ++ ":" ++ renderArgs ws =
      exclusionMark false ++ part.name ++ ":" ++ renderArgs ws := by
    simp [exclusionMark]
  rw [htext]
  refine scans_args ws (begins_part part) (isNameChar_part part) fun raw => ?_
  obtain ⟨hlist, hscope⟩ := spelled?_part part
  obtain ⟨hphrase, hword⟩ := phrase?_args ws
  simp only [namedTokens, hlist, hscope, scopeTokens, hphrase, hword, words_args, List.map_map]
  rw [if_neg (by simpa using ws.property)]
  rfl

theorem scans_condition (o : {o : Operator // o ∈ listOperators}) :
    Scans minStem (exclusionMark excluded ++ o.val.name ++ ":" ++ renderArgs ws).toList
      [.condition ⟨excluded, o.val, ws.val.map Word.text⟩] := by
  have hnames : ∀ o ∈ listOperators, Begins o.name.toList ∧
      ∀ c ∈ o.name.toList, isNameChar c = true := by
    decide +kernel
  obtain ⟨hbegins, hchars⟩ := hnames o.val o.property
  refine scans_args ws hbegins hchars fun raw => ?_
  simp only [namedTokens, spelled?_operator o.val o.property, Body.listed, words_args,
    List.map_map]
  rfl

theorem scans_scopeStart (part : Part) :
    Scans minStem (part.name ++ ":").toList [.scopeStart part.scope] := by
  have htext : (part.name ++ ":").toList =
      (exclusionMark false).toList ++ (part.name.toList ++ [':']) := by
    simp [exclusionMark]
  have hu : IsUnbroken (part.name.toList ++ [':']) := by
    cases part <;> decide
  rw [htext]
  refine Scans.term none (.word (part.name.toList ++ [':'])) ((begins_part part).append _) ?_ ?_
  · intro rest hr
    have hquote : (part.name.toList ++ [':']).head? ≠ some '"' := by
      cases part <;> decide
    have hbare := named?_bare (isNameChar_part part) hr
    have hbody := body?_unbroken (by simp) hu hquote hr
    rw [List.append_assoc, List.singleton_append] at hbody
    rw [List.append_assoc, List.singleton_append, hbare, unnamed?, hbody]
    rfl
  · have hopen : openedScope? (Lexeme.term false none
        (.word (part.name.toList ++ [':']))).text = some part.scope := by
      cases part <;> decide
    simp only [Lexeme.tokens, hopen]

theorem Item.scans : ∀ i : Item minStem, Scans minStem i.render.toList i.scanned
  | .block b => scans_block b
  | .scopeStart part => scans_scopeStart part
  | .inScope part ws => scans_inScope ws part
  | .condition _ o ws => scans_condition ws o

/-- A written query is scanned item by item. -/
theorem scan_render (items : List (Item minStem)) :
    scan minStem (render items).toList = .ok (items.flatMap Item.scanned) :=
  scan_spaced fun i _ => Item.scans i

/-! ### Folding -/

/-- Tokens of an item when the pipes are folded. -/
def Item.piped : Item minStem → List Token
  | .block b => [Token.plus].intercalate (b.val.map fun g => [.group (groupOf g)])
  | i => [i.token]

theorem folds_piped_group (g : NonemptyList (Leaf minStem)) :
    Folds joinPipesOnto (pipedTokens g) [.group (groupOf g)] := by
  obtain ⟨l, ls, hg⟩ := List.exists_cons_of_ne_nil g.property
  have hgroup : groupOf g = (l :: ls).flatMap fun l => [l.leaf] := by
    rw [groupOf, hg, List.map_eq_flatMap]
  rw [pipedTokens, hgroup, hg]
  exact folds_piped

theorem Item.folds_pipes : ∀ i : Item minStem, Folds joinPipesOnto i.scanned i.piped
  | .block _ => Folds.intercalate (folds_joinPipes nofun) fun g _ => folds_piped_group g
  | .scopeStart _ | .inScope _ _ | .condition _ _ _ => folds_joinPipes nofun

theorem Item.folds_pluses : ∀ i : Item minStem, Folds joinPlusesOnto i.piped [i.token]
  | .block ⟨[], h⟩ => absurd rfl h
  | .block ⟨_ :: _, _⟩ => folds_plused
  | .scopeStart _ | .inScope _ _ | .condition _ _ _ => folds_joinPluses nofun nofun

theorem foldCombinators_scanned (items : List (Item minStem)) :
    foldCombinators (items.flatMap Item.scanned) = items.map Item.token := by
  have hpipes := Folds.flatMap fun i (_ : i ∈ items) => i.folds_pipes
  have hpluses := Folds.flatMap fun i (_ : i ∈ items) => i.folds_pluses
  rw [foldCombinators, joinPipes_of_folds hpipes, joinPluses_of_folds hpluses,
    List.map_eq_flatMap]

/-! ### The comment scope -/

theorem openCommentScope_eq_self {o : Operator} {ts : List Token}
    (h : ∀ t ∈ ts, t.isCondition o = false) : openCommentScope o ts = ts := by
  have hdrop : ts.dropWhile (!·.isCondition o) = [] :=
    List.dropWhile_eq_nil_iff.2 fun t ht => by rw [h t ht]; rfl
  unfold openCommentScope
  rw [hdrop]

theorem Item.isCondition_scanned {o : Operator} (ho : o ∈ Operator.commentOnly) :
    ∀ i : Item minStem, ∀ t ∈ i.scanned, t.isCondition o = false
  | .block _ => by
      refine forall_mem_intercalate (by simp [Token.isCondition]) fun g _ => ?_
      refine forall_mem_intercalate (by simp [Token.isCondition]) fun l _ => ?_
      simp [Token.isCondition]
  | .scopeStart _ | .inScope _ _ => by simp [scanned, token, Token.isCondition]
  | .condition _ p _ => by
      have hoperators : ∀ p ∈ listOperators, ∀ o ∈ Operator.commentOnly, (p == o) = false := by
        decide
      simpa [scanned, token, Token.isCondition] using hoperators p.val p.property o ho

theorem applyCommentScope_scanned (items : List (Item minStem)) :
    applyCommentScope (items.flatMap Item.scanned) = items.flatMap Item.scanned := by
  have hself : ∀ o ∈ Operator.commentOnly,
      openCommentScope o (items.flatMap Item.scanned) = items.flatMap Item.scanned := by
    refine fun o ho => openCommentScope_eq_self fun t ht => ?_
    obtain ⟨i, -, ht⟩ := List.mem_flatMap.1 ht
    exact i.isCondition_scanned ho t ht
  unfold applyCommentScope
  rw [Operator.commentOnly, List.foldl_cons, List.foldl_cons, List.foldl_nil,
    hself _ (by decide), hself _ (by decide)]

/-! ### The whole query -/

/-- Parsing a written query gives the tokens that are meant. -/
theorem parse_render (items : List (Item minStem)) :
    parse (render items) minStem = .ok (items.map Item.token) := by
  rw [parse, tokenize, (isSettled_render items).normalize, scan_render]
  change Except.ok (foldCombinators (applyCommentScope (items.flatMap Item.scanned))) = _
  rw [applyCommentScope_scanned, foldCombinators_scanned]

end PostSearch.Query.Written
