import Mathlib.Data.List.Perm.Subperm
import PostSearch.Proofs.Interval.Counts
import PostSearch.Proofs.Interval.Days
import PostSearch.Proofs.Query.Folding
import PostSearch.Proofs.Query.Meanings
import PostSearch.Proofs.Query.Pieces
import PostSearch.Proofs.Unicode.Ascii
import PostSearch.Query.StemLength

/-! # Parsed queries

Clauses are built from parsed queries without checking them again: arguments of intervals are taken
apart and read as numbers, groups are joined. `Token.WellFormed` says what that takes. Lexemes only
mean tokens that are well formed or that folding takes care of (`unfolded_of_tokens`), the comment
scope adds nothing else, and folding leaves nothing to fold.

Main statement: every token of a parsed query is well formed (`parseWith_wellFormed`). -/

namespace PostSearch.Query

open PostSearch.Interval

variable {ts : List Token} {t : Token} {o : Operator}

/-! ### Well-formed tokens -/

/-- A type of attached files: a kind, or an extension. -/
def IsFileType (arg : String) : Prop :=
  arg ∈ ["image", "audio", "file"] ∨ ∃ c s, arg = String.ofList ('.' :: c :: s)

/-- The arguments are such as the operator takes. -/
def Operator.ArgsFit (args : List String) : Operator → Prop
  | .commentCount | .likeCount | .commentLikeCount => AreBounds IsCountText args
  | .contentDate | .postDate => AreBounds IsDayText args
  | .attachment => ∀ arg ∈ args, IsFileType arg
  | .inMy | .inFeed | .commentedBy | .likedBy | .commentLikedBy | .postBy | .textBy | .sentTo
  | .privacy => ∀ arg ∈ args, arg ≠ ""
  | .other _ => False

def Scope.IsPart (scope : Scope) : Prop :=
  scope = .posts ∨ scope = .comments

/-- The token may be part of a parsed query. -/
inductive Token.WellFormed : Token → Prop
  | sequence {gs : List Group} (hne : gs ≠ []) (hgroups : ∀ g ∈ gs, g ≠ []) :
      WellFormed (.sequence gs)
  /-- Texts in a scope are one text, or words that are looked for. -/
  | inScope {scope : Scope} {g : Group} (hscope : scope.IsPart) (hne : g ≠ [])
      (hleaves : g.length = 1 ∨ ∀ leaf ∈ g, leaf.excluded = false ∧ leaf.isPhrase = false) :
      WellFormed (.inScope scope g)
  | scopeStart {scope : Scope} (hscope : scope.IsPart) : WellFormed (.scopeStart scope)
  | condition {c : Condition} (hknown : c.operator ∈ Operator.known)
      (hargs : c.operator.ArgsFit c.args) : WellFormed (.condition c)

/-- The token may be part of a query before folding. -/
inductive Token.Unfolded : Token → Prop
  | pipe : Unfolded .pipe
  | plus : Unfolded .plus
  | group {g : Group} (hne : g ≠ []) : Unfolded (.group g)
  | wellFormed {t : Token} (h : t.WellFormed) : Unfolded t

theorem Token.Unfolded.ne_nil {g : Group} (h : (Token.group g).Unfolded) : g ≠ [] := by
  cases h with
  | group hne => exact hne
  | wellFormed h => cases h

/-! ### Lexemes -/

theorem isPart_of_spelled? {name : List Char} {scope : Scope}
    (h : spelled? name scopeSpellings = some scope) : scope.IsPart := by
  have hall : ∀ p ∈ scopeSpellings, p.2 = .posts ∨ p.2 = .comments := by decide
  exact hall _ (mem_of_spelled? h)

theorem isPart_of_openedScope? {raw : List Char} {scope : Scope}
    (h : openedScope? raw = some scope) : scope.IsPart := by
  unfold openedScope? at h
  split at h
  · exact isPart_of_spelled? h
  · cases h

theorem ne_empty_of_mem_words {minStem : Int} {s : List Char} {arg : String}
    (h : arg ∈ (words minStem s).map String.ofList) : arg ≠ "" := by
  obtain ⟨w, hw, rfl⟩ := List.mem_map.1 h
  have := (List.mem_filter.1 hw).2
  simpa using this

theorem isFileType_of_mem_fileTypes {s : List Char} {arg : String}
    (h : arg ∈ (fileTypes s).map String.ofList) : IsFileType arg := by
  obtain ⟨w, hw, rfl⟩ := List.mem_map.1 h
  obtain ⟨piece, -, hpiece⟩ := List.mem_filterMap.1 hw
  unfold fileType? at hpiece
  dsimp only at hpiece
  split at hpiece
  · rename_i hdot
    cases hpiece
    obtain ⟨hhead, hlength⟩ := hdot
    match hstrip : Unicode.strip piece, hhead, hlength with
    | d :: c :: s, hhead, _ =>
        cases hhead
        exact Or.inr ⟨c, s, rfl⟩
  · split at hpiece
    · rename_i hkind
      cases hpiece
      refine Or.inl ?_
      have hkinds : ∀ k ∈ fileKinds, String.ofList k ∈ ["image", "audio", "file"] := by decide
      exact hkinds _ hkind
    · cases hpiece

theorem argsFit_listed {args : List String} : ∀ o ∈ listSpellings.map Prod.snd,
    o ∈ Operator.known ∧ (o.ArgsFit args ↔ ∀ arg ∈ args, arg ≠ "") := by
  simp [listSpellings, Operator.known, Operator.ArgsFit]

theorem argsFit_dated {args : List String} : ∀ o ∈ dateSpellings.map Prod.snd,
    o ∈ Operator.known ∧ (o.ArgsFit args ↔ AreBounds IsDayText args) := by
  simp [dateSpellings, Operator.known, Operator.ArgsFit]

theorem argsFit_counted {args : List String} : ∀ o ∈ counterSpellings.map Prod.snd,
    o ∈ Operator.known ∧ (o.ArgsFit args ↔ AreBounds IsCountText args) := by
  simp [counterSpellings, Operator.known, Operator.ArgsFit]

/-- Lexemes mean nothing that folding does not take away or leave well formed. -/
theorem unfolded_of_tokens {l : Lexeme} {n : Int} (h : l.tokens n = .ok ts) :
    ∀ t ∈ ts, t.Unfolded := by
  have htext : ∀ {us : List Token} {t : Token}, IsText us → t ∈ us → t.Unfolded := by
    intro us t hus ht
    obtain ⟨leaf, rfl⟩ := hus.eq_group ht
    exact .group (List.cons_ne_nil _ _)
  intro t ht
  cases means_of_tokens h with
  | pipe => exact List.mem_singleton.1 ht ▸ .pipe
  | plus => exact List.mem_singleton.1 ht ▸ .plus
  | opened hs =>
      exact List.mem_singleton.1 ht ▸ .wellFormed (.scopeStart (isPart_of_openedScope? hs))
  | bare => exact htext (isText_bareTokens _ _ _) ht
  | unknown => exact htext (isText_wordTokens _ _) ht
  | listed hs =>
      obtain ⟨hknown, hfit⟩ := argsFit_listed _ (spelled?_mem hs)
      refine List.mem_singleton.1 ht ▸ .wellFormed (.condition hknown (hfit.2 ?_))
      exact fun _ => ne_empty_of_mem_words
  | attached hs =>
      have hfile : ∀ p ∈ fileSpellings, p.2 = .attachment := by decide
      obtain rfl := hfile _ (mem_of_spelled? hs)
      have hknown : Operator.attachment ∈ Operator.known := by decide
      refine List.mem_singleton.1 ht ▸ .wellFormed (.condition hknown ?_)
      exact fun _ => isFileType_of_mem_fileTypes
  | inside hs =>
      obtain ⟨g, rfl, hne, hleaves⟩ := mem_scopeTokens ht
      exact .wellFormed (.inScope (isPart_of_spelled? hs) hne hleaves)
  | dated hs =>
      obtain ⟨lower, upper, hbounds, rfl⟩ := mem_intervalTokens ht
      obtain ⟨hknown, hfit⟩ := argsFit_dated _ (spelled?_mem hs)
      exact .wellFormed (.condition hknown (hfit.2 (areBounds_dayTexts hbounds)))
  | counted hs hbounds =>
      obtain ⟨lower, upper, rfl, rfl⟩ := mem_intervalTokens ht
      obtain ⟨hknown, hfit⟩ := argsFit_counted _ (spelled?_mem hs)
      exact .wellFormed (.condition hknown (hfit.2 (areBounds_countTexts hbounds)))

theorem mem_lexemesTokens {n : Int} : ∀ {ls : List Lexeme} {ts : List Token},
    lexemesTokens n ls = .ok ts → t ∈ ts → ∃ l ∈ ls, ∃ us, l.tokens n = .ok us ∧ t ∈ us
  | [], ts, h, ht => by
      cases h
      cases ht
  | l :: ls, ts, h, ht => by
      obtain ⟨us, hus, h⟩ := bind_eq_ok.1 h
      obtain ⟨vs, hvs, h⟩ := bind_eq_ok.1 h
      cases h
      rcases List.mem_append.1 ht with ht | ht
      · exact ⟨l, List.mem_cons_self, us, hus, ht⟩
      · obtain ⟨l', hl, h⟩ := mem_lexemesTokens hvs ht
        exact ⟨l', List.mem_cons_of_mem _ hl, h⟩

/-! ### The comment scope and folding -/

theorem mem_openCommentScope (h : t ∈ openCommentScope o ts) :
    t = .scopeStart .comments ∨ t ∈ ts := by
  unfold openCommentScope at h
  dsimp only at h
  split at h
  · exact Or.inr h
  · rename_i after hafter
    split at h
    · exact List.mem_cons.1 h
    · exact Or.inr h
    · rw [← List.takeWhile_append_dropWhile (p := (!·.isCondition o)) (l := ts), hafter]
      refine Or.inr ?_
      rcases List.mem_append.1 h with h | h
      · exact List.mem_append_left _ h
      · exact List.mem_append_right _ (List.mem_cons_of_mem _ h)

/-- The comment scope makes up no tokens but its start. -/
theorem mem_applyCommentScope (h : t ∈ applyCommentScope ts) :
    t = .scopeStart .comments ∨ t ∈ ts :=
  (mem_openCommentScope h).elim Or.inl mem_openCommentScope

theorem wellFormed_foldCombinators (h : ∀ t ∈ ts, t.Unfolded) :
    ∀ t ∈ foldCombinators ts, t.WellFormed := by
  have hpipes : ∀ t ∈ joinPipes ts, t.Unfolded ∧ t ≠ .pipe := by
    refine forall_joinPipes h (fun t ht hne => ⟨ht, hne⟩) fun g g' hg hg' => ⟨.group ?_, nofun⟩
    exact List.append_ne_nil_of_right_ne_nil _ hg'.ne_nil
  refine forall_joinPluses hpipes (fun t ht hplus hgroup => ?_) (fun g hg => ?_)
    fun gs g hgs hg => ?_
  · obtain ⟨hunfolded, hpipe⟩ := ht
    cases hunfolded with
    | pipe => exact absurd rfl hpipe
    | plus => exact absurd rfl hplus
    | group => exact absurd rfl (hgroup _)
    | wellFormed h => exact h
  · refine .sequence (List.cons_ne_nil _ _) fun g' hg' => ?_
    exact List.mem_singleton.1 hg' ▸ hg.1.ne_nil
  · cases hgs with
    | sequence hne hgroups =>
        refine .sequence (List.append_ne_nil_of_left_ne_nil hne _) fun g' hg' => ?_
        rcases List.mem_append.1 hg' with hg' | hg'
        · exact hgroups g' hg'
        · exact List.mem_singleton.1 hg' ▸ hg.1.ne_nil

/-! ### Parsed queries -/

theorem wellFormed_of_parse {query : String} {n : Int} (h : parse query n = .ok ts) :
    ∀ t ∈ ts, t.WellFormed := by
  obtain ⟨scanned, hscanned, rfl⟩ := map_eq_ok.1 h
  refine wellFormed_foldCombinators fun t ht => ?_
  rcases mem_applyCommentScope ht with rfl | ht
  · exact .wellFormed (.scopeStart (Or.inr rfl))
  · obtain ⟨l, -, us, hl, hus⟩ := mem_lexemesTokens hscanned ht
    exact unfolded_of_tokens hl t hus

/-- Whatever stands for the length of stems, some number would have done. -/
theorem exists_parse_of_parseWith {query : String} {minStem : Datum}
    (h : parseWith query minStem = .ok ts) : ∃ n, parse query n = .ok ts := by
  obtain ⟨scanned, hscanned, rfl⟩ := map_eq_ok.1 h
  unfold tokenizeWith lexemesTokensWith at hscanned
  split at hscanned
  · rename_i n _
    exact ⟨n, map_eq_ok.2 ⟨scanned, mapError_eq_ok.1 hscanned, rfl⟩⟩
  · obtain ⟨us, hus, hscanned⟩ := bind_eq_ok.1 hscanned
    split at hscanned
    · rename_i hall
      cases hscanned
      have hasks : (lexemes (normalize query.toList)).takeWhile (fun l => !l.asksLength) =
          lexemes (normalize query.toList) :=
        List.takeWhile_eq_self_iff.2 (List.all_eq_true.1 hall)
      have hus := mapError_eq_ok.1 hus
      rw [hasks] at hus
      exact ⟨0, map_eq_ok.2 ⟨scanned, hus, rfl⟩⟩
    · cases hscanned

/-- Conditions on the likes of a comment have two bounds, and one of them is given. -/
theorem parseWith_bounds {query : String} {minStem : Datum} {c : Condition}
    (h : parseWith query minStem = .ok ts) (hc : c ∈ conditionsOf .commentLikeCount ts) :
    ∃ lower upper, c.args = [lower, upper] ∧ (lower ≠ "" ∨ upper ≠ "") := by
  obtain ⟨n, h⟩ := exists_parse_of_parseWith h
  obtain ⟨hc, ho⟩ := mem_conditionsOf.1 hc
  cases wellFormed_of_parse h _ hc with
  | condition hknown hargs =>
      rw [ho] at hargs
      obtain ⟨lower, upper, hargs, hbounds, -⟩ := hargs
      exact ⟨lower, upper, hargs, hbounds⟩

/-! ### Typed conditions -/

/-- A condition as it is typed: a name with a word, and the arguments that the word means. -/
structure TypedCondition where
  operator : Operator
  word : String
  args : List String

namespace TypedCondition

variable {e : TypedCondition} {es : List TypedCondition} {n : Int}

def text (e : TypedCondition) : String :=
  e.operator.name ++ ":" ++ e.word

def token (e : TypedCondition) : Token :=
  .condition ⟨false, e.operator, e.args⟩

/-- Name and word can be told apart from what stands around, and mean the condition. -/
def IsRead (n : Int) (e : TypedCondition) : Prop :=
  Begins e.operator.name.toList ∧ (∀ c ∈ e.operator.name.toList, isNameChar c = true) ∧
    e.word.toList ≠ [] ∧ IsUnbroken e.word.toList ∧ e.word.toList.head? ≠ some '"' ∧
    e.word.toList.getLast? ≠ some ':' ∧
    namedTokens n false e.operator.name.toList (.word e.word.toList)
      (Lexeme.term false (some e.operator.name.toList) (.word e.word.toList)).text = .ok [e.token]

instance : Decidable (e.IsRead n) :=
  inferInstanceAs (Decidable (_ ∧ _))

theorem scans (h : e.IsRead n) : Scans n e.text.toList [e.token] := by
  obtain ⟨hbegins, hname, hne, hword, hquote, hcolon, htokens⟩ := h
  have hscans := Scans.named hbegins hname hne hword hquote hcolon htokens
  have htext : e.text.toList =
      (exclusionMark false).toList ++ (e.operator.name.toList ++ ':' :: e.word.toList) := by
    simp [text, exclusionMark]
  rwa [htext]

theorem parse_texts (h : ∀ e ∈ es, e.IsRead n)
    (hplain : ∀ c ∈ (Text.joinWith " " (es.map text)).toList, c.toNat < 128 ∧ c.isUpper = false) :
    parse (Text.joinWith " " (es.map text)) n =
      .ok (foldCombinators (applyCommentScope (es.map token))) := by
  rw [parse, tokenize, Unicode.normalize_ascii hplain, scan_spaced fun e he => scans (h e he),
    List.map_eq_flatMap]
  rfl

end TypedCondition

def everyCondition : List TypedCondition := [
  ⟨.inMy, "a", ["a"]⟩, ⟨.inFeed, "a", ["a"]⟩, ⟨.commentedBy, "a", ["a"]⟩, ⟨.likedBy, "a", ["a"]⟩,
  ⟨.commentLikedBy, "a", ["a"]⟩, ⟨.postBy, "a", ["a"]⟩, ⟨.textBy, "a", ["a"]⟩,
  ⟨.sentTo, "a", ["a"]⟩, ⟨.privacy, "a", ["a"]⟩, ⟨.attachment, "image", ["image"]⟩,
  ⟨.contentDate, "2020", ["2020-01-01", "2021-01-01"]⟩,
  ⟨.postDate, "2020", ["2020-01-01", "2021-01-01"]⟩, ⟨.commentCount, "1", ["1", "1"]⟩,
  ⟨.likeCount, "1", ["1", "1"]⟩, ⟨.commentLikeCount, "1", ["1", "1"]⟩]

/-- A query with every condition. -/
def everyConditionText : String :=
  "in-my:a in:a commented-by:a liked-by:a cliked-by:a from:a author:a to:a is:a " ++
    "has:image date:2020 post-date:2020 comments:1 likes:1 clikes:1"

/-- The tokens of that query; two of the conditions belong into comments. -/
def everyConditionTokens : List Token :=
  .scopeStart .comments :: everyCondition.map TypedCondition.token

theorem parse_everyCondition : parse everyConditionText 2 = .ok everyConditionTokens := by
  have htext : everyConditionText = Text.joinWith " " (everyCondition.map TypedCondition.text) := by
    decide +kernel
  rw [htext, TypedCondition.parse_texts (by decide +kernel) (by decide +kernel)]
  rfl

/-- Every token of a parsed query is well formed. -/
theorem parseWith_wellFormed {query : String} {minStem : Datum}
    (h : parseWith query minStem = .ok ts) : ∀ t ∈ ts, t.WellFormed := by
  obtain ⟨n, h⟩ := exists_parse_of_parseWith h
  exact wellFormed_of_parse h

theorem wellFormed_of_everyCondition :
    parseWith everyConditionText (.number 2) = .ok everyConditionTokens ∧
      ∀ t ∈ everyConditionTokens, t.WellFormed := by
  have h : parseWith everyConditionText (.number 2) = .ok everyConditionTokens := by
    rw [parseWith_number, parse_everyCondition]
    rfl
  exact ⟨h, parseWith_wellFormed h⟩

/-- Conditions have more names than fourteen. -/
theorem names_exceed_fourteen : ¬ ∃ names : List String, names.length = 14 ∧
    ∀ query minStem ts, parse query minStem = .ok ts →
      ∀ c, .condition c ∈ ts → c.operator.name ∈ names := by
  rintro ⟨names, hlength, hall⟩
  have hknown : ∀ o ∈ Operator.known, ∃ e ∈ everyCondition, e.operator = o := by decide
  have hsubset : Operator.known.map Operator.name ⊆ names := by
    intro name hname
    obtain ⟨o, ho, rfl⟩ := List.mem_map.1 hname
    obtain ⟨e, he, rfl⟩ := hknown o ho
    have hmem : e.token ∈ everyConditionTokens :=
      List.mem_cons_of_mem _ (List.mem_map_of_mem he)
    exact hall _ _ _ parse_everyCondition _ hmem
  have hnodup : (Operator.known.map Operator.name).Nodup := by decide
  have hle := (List.subperm_of_subset hnodup hsubset).length_le
  rw [hlength] at hle
  exact absurd hle (by decide)

end PostSearch.Query
