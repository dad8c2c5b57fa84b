import PostSearch.Proofs.Query.Walk
import PostSearch.Proofs.Search.Naming
import PostSearch.Proofs.Search.Visible

/-! # Texts that are looked for

No text of a query is lost or looked for twice. Every token applies to one scope; the texts of a
scope make one expression, and their values are bound scope by scope before anything else.

Main statement: `compile_texts` says what the first values of a compiled query are, and that every
member of its statement has the matches of all scopes with texts as conjuncts or finds nothing. -/

namespace PostSearch

namespace Query

variable {tokens : List Token}

/-! ### Texts of tokens -/

def Token.texts : Token → List Leaf
  | .sequence gs => gs.flatten
  | .inScope _ g => g
  | _ => []

/-- The texts that apply to exactly the given scope. -/
def textsIn (scope : Scope) (tokens : List Token) : List Leaf :=
  (inScope scope tokens).flatMap Token.texts

/-- The texts of a query, scope by scope. -/
def textsByScope (tokens : List Token) : List Leaf :=
  textsIn .all tokens ++ textsIn .posts tokens ++ textsIn .comments tokens

/-- Scope by scope, each text is found once. -/
theorem textsByScope_perm (tokens : List Token) :
    (textsByScope tokens).Perm (tokens.flatMap Token.texts) :=
  flatMap_inScope_perm (fun _ => rfl) tokens

end Query

namespace Sql

open Query

variable {ν : Type}

/-! ### Values of text queries -/

mutual

def TextQuery.values : TextQuery ν → List ν
  | .term _ _ _ value => [value]
  | .joined _ parts => valuesAll parts

def TextQuery.valuesAll : List (TextQuery ν) → List ν
  | [] => []
  | q :: qs => values q ++ valuesAll qs

end

theorem TextQuery.valuesAll_eq (qs : List (TextQuery ν)) : valuesAll qs = qs.flatMap values := by
  induction qs with
  | nil => rfl
  | cons q qs ih => rw [valuesAll, ih, List.flatMap_cons]

/-- The value that is bound for a text, as a datum. -/
def searched (leaf : Leaf) : Datum :=
  .text (leafValue leaf)

theorem values_groupQuery (config : Datum) (g : Group) :
    (groupQuery config g).values = g.map searched := by
  rw [groupQuery, TextQuery.values, TextQuery.valuesAll_eq, List.flatMap_map,
    List.map_eq_flatMap]
  rfl

theorem values_plainQuery (config : Datum) {t : Token} (h : isTextBlock t = true) :
    ∃ q, plainQuery? config t = some q ∧ q.values = t.texts.map searched := by
  cases t with
  | sequence gs =>
      refine ⟨_, rfl, ?_⟩
      rw [TextQuery.values, TextQuery.valuesAll_eq, List.flatMap_map]
      simp only [values_groupQuery, Token.texts, List.map_flatten]
      rfl
  | inScope s g => exact ⟨_, rfl, values_groupQuery config g⟩
  | _ => cases h

theorem values_plainScopeQuery (config : Datum) (tokens : List Token) (scope : Scope) :
    (plainScopeQuery? config tokens scope).toList.flatMap TextQuery.values =
      (textsIn scope tokens).map searched := by
  have hblocks : ∀ ts : List Token,
      ((ts.filter isTextBlock).filterMap (plainQuery? config)).flatMap TextQuery.values =
        (ts.flatMap Token.texts).map searched := by
    intro ts
    induction ts with
    | nil => rfl
    | cons t ts ih =>
        rw [List.filter_cons, List.flatMap_cons, List.map_append, ← ih]
        cases hblock : isTextBlock t with
        | true =>
            obtain ⟨q, hq, hvalues⟩ := values_plainQuery config hblock
            rw [if_pos rfl, List.filterMap_cons_some hq, List.flatMap_cons, hvalues]
        | false =>
            have hnone : t.texts = [] := by
              cases t <;> first | rfl | cases hblock
            rw [if_neg nofun, hnone]
            rfl
  rw [textsIn, ← hblocks, plainScopeQuery?]
  split
  · rename_i hnil
    rw [hnil]
    rfl
  · rw [Option.toList_some, List.flatMap_singleton, TextQuery.values, TextQuery.valuesAll_eq]

/-! ### Binding texts -/

/-- Nothing is bound but the values `vs` of texts, after the configuration if there are any. -/
structure TextsBound (config : Datum) (vs : List Datum) (ps : Params) : Prop where
  stem : ps.stem = Params.defaultStem
  values : ps.values = if vs = [] then [] else config :: vs
  config : ps.config.isSome = true ↔ vs ≠ []

theorem textsBound_empty (config : Datum) :
    TextsBound config [] (.empty Params.defaultStem) :=
  ⟨rfl, rfl, by simp [Params.empty]⟩

variable {config : Datum} {vs : List Datum} {ps : Params}

/-- A text is bound behind those before it. -/
theorem textsBound_term (h : TextsBound config vs ps) (value : Datum) :
    TextsBound config (vs ++ [value])
      (Params.bind value (Params.bindConfig config ps).2).2 := by
  have hfirst : (Params.bindConfig config ps).2.values = config :: vs ∧
      (Params.bindConfig config ps).2.config.isSome = true ∧
      (Params.bindConfig config ps).2.stem = ps.stem := by
    unfold Params.bindConfig
    cases hc : ps.config with
    | some p =>
        have hne : vs ≠ [] := h.config.1 (by rw [hc]; rfl)
        exact ⟨h.values.trans (if_neg hne), by rw [hc]; rfl, rfl⟩
    | none =>
        have hnil : vs = [] := by
          by_contra hne
          have := h.config.2 hne
          rw [hc] at this
          cases this
        refine ⟨?_, rfl, rfl⟩
        change ps.values ++ [config] = config :: vs
        rw [h.values, hnil]
        rfl
  have hne : vs ++ [value] ≠ [] := List.append_ne_nil_of_right_ne_nil _ (List.cons_ne_nil _ _)
  refine ⟨hfirst.2.2.trans h.stem, ?_, iff_of_true hfirst.2.1 hne⟩
  change (Params.bindConfig config ps).2.values ++ [value] = _
  rw [hfirst.1, if_neg hne]
  rfl

mutual

/-- The values of an expression are bound from left to right. -/
theorem textsBound_bind : ∀ (q : TextQuery Datum), q.HasConfig config →
    ∀ {vs : List Datum} {ps : Params}, TextsBound config vs ps →
      TextsBound config (vs ++ q.values) (q.bind ps).2
  | .term c excluded mode value, hc, vs, ps, h => by
      obtain rfl : c = config := by simpa only [TextQuery.HasConfig] using hc
      exact textsBound_term h value
  | .joined joint parts, hc, vs, ps, h =>
      textsBound_bindAll parts (by simpa only [TextQuery.HasConfig] using hc) h

theorem textsBound_bindAll : ∀ (qs : List (TextQuery Datum)), (∀ q ∈ qs, q.HasConfig config) →
    ∀ {vs : List Datum} {ps : Params}, TextsBound config vs ps →
      TextsBound config (vs ++ TextQuery.valuesAll qs) (TextQuery.bindAll qs ps).2
  | [], _, vs, ps, h => by
      rw [TextQuery.valuesAll, List.append_nil]
      exact h
  | q :: qs, hc, vs, ps, h => by
      have hq := textsBound_bind q (hc q List.mem_cons_self) h
      have hqs := textsBound_bindAll qs (fun q' hq' => hc q' (List.mem_cons_of_mem _ hq')) hq
      rw [TextQuery.valuesAll, ← List.append_assoc]
      exact hqs

end

theorem textsBound_scopeQuery (h : TextsBound config vs ps) (tokens : List Token) (scope : Scope) :
    TextsBound config (vs ++ (textsIn scope tokens).map searched)
      (scopeQuery config tokens scope ps).2 := by
  rw [← values_plainScopeQuery config tokens scope]
  unfold scopeQuery
  cases hq : plainScopeQuery? config tokens scope with
  | none =>
      rw [Option.toList_none, List.flatMap_nil, List.append_nil]
      exact h
  | some q =>
      rw [Option.toList_some, List.flatMap_singleton]
      exact textsBound_bind q (Search.plainScopeQuery_hasConfig q hq) h

end Sql

namespace Search

open Query Sql Clause

variable {site : Site} {options : Options} {tokens named : List Token} {compiled : Compiled}

/-! ### Writing out the viewer's name -/

theorem blocks_named (h : List.Forall₂ NamedAs tokens named) (scope : Scope) :
    (inScope scope named).filter isTextBlock = (inScope scope tokens).filter isTextBlock := by
  have hwalk : ∀ current, (withScopeFrom current named).filter (isTextBlock ·.1) =
      (withScopeFrom current tokens).filter (isTextBlock ·.1) := by
    intro current
    induction h generalizing current with
    | nil => rfl
    | @cons t u ts us ht _ ih =>
        rcases ht with rfl | ⟨c, d, rfl, rfl, -, -⟩
        · cases t <;> simp only [withScopeFrom, List.filter_cons, ih]
        · simp only [withScopeFrom, List.filter_cons, ih]
          rfl
  have hblocks : ∀ ts, (inScope scope ts).filter isTextBlock =
      (((withScope ts).filter (isTextBlock ·.1)).filter (·.2 = scope)).map Prod.fst := by
    intro ts
    rw [inScope, List.filter_map, List.filter_filter, List.filter_filter]
    exact congrArg _ (List.filter_congr fun p _ => Bool.and_comm _ _)
  rw [hblocks, hblocks, withScope, withScope, hwalk]

theorem textsIn_eq (scope : Scope) (tokens : List Token) :
    textsIn scope tokens = ((inScope scope tokens).filter isTextBlock).flatMap Token.texts := by
  unfold textsIn
  induction inScope scope tokens with
  | nil => rfl
  | cons t ts ih =>
      rw [List.filter_cons, List.flatMap_cons, ih]
      cases t <;> rfl

theorem textsIn_named (h : List.Forall₂ NamedAs tokens named) (scope : Scope) :
    textsIn scope named = textsIn scope tokens := by
  rw [textsIn_eq, textsIn_eq, blocks_named h]

theorem plainScopeQuery_named (h : List.Forall₂ NamedAs tokens named) (config : Datum)
    (scope : Scope) :
    plainScopeQuery? config named scope = plainScopeQuery? config tokens scope := by
  unfold plainScopeQuery?
  rw [blocks_named h]

/-! ### The first values -/

namespace Assembly

/-- The values of texts are bound before all others. -/
theorem extends_texts (a : Assembly site options tokens compiled) :
    ∃ ps, TextsBound options.textSearchConfig ((textsByScope a.named).map searched) ps ∧
      compiled.params.Extends ps := by
  obtain ⟨others, hparts, hothers⟩ :=
    bindParts_eq site options a.named (clauses_ok a.building).speak
  let first := scopeQuery options.textSearchConfig a.named .all (.empty Params.defaultStem)
  let second := scopeQuery options.textSearchConfig a.named .posts first.2
  let third := scopeQuery options.textSearchConfig a.named .comments second.2
  have hrun : others first.1 second.1 third.1 third.2 = (a.parts, compiled.params) := by
    rw [← a.binding, hparts]
    rfl
  have hconfig : Params.ConfigIs options.textSearchConfig third.2 := by
    have hfirst : Params.ConfigIs options.textSearchConfig first.2 :=
      (faithful_scopeQuery .all _ (Params.configIs_empty _ _)).2.1
    have hsecond : Params.ConfigIs options.textSearchConfig second.2 :=
      (faithful_scopeQuery .posts _ hfirst).2.1
    exact (faithful_scopeQuery .comments _ hsecond).2.1
  have hextends := (hothers first.1 second.1 third.1 third.2 hconfig).1
  rw [hrun] at hextends
  have htexts : TextsBound options.textSearchConfig _ third.2 := textsBound_scopeQuery
    (textsBound_scopeQuery (textsBound_scopeQuery (textsBound_empty _) a.named .all) a.named .posts)
    a.named .comments
  rw [List.nil_append, ← List.map_append, ← List.map_append] at htexts
  exact ⟨third.2, htexts, hextends⟩

/-- The values of texts come first, after the configuration. -/
theorem entries_texts (a : Assembly site options tokens compiled) (hne : textsByScope a.named ≠ []) :
    (("p_0", options.textSearchConfig) :: (textsByScope a.named).zipIdx.map fun p =>
      ("p_" ++ toString (p.2 + 1), searched p.1)) <+: compiled.params.entries := by
  obtain ⟨ps, htexts, hextends⟩ := a.extends_texts
  obtain ⟨more, hmore⟩ := hextends.values
  rw [htexts.values, if_neg (mt List.map_eq_nil_iff.1 hne)] at hmore
  have hstem : Params.defaultStem ++ "_" = "p_" := by decide +kernel
  have hzero : "p_" ++ toString 0 = "p_0" := by decide +kernel
  rw [Params.entries_eq, ← hmore, hextends.stem, htexts.stem, hstem, List.cons_append,
    List.zipIdx_cons, List.map_cons, hzero, List.zipIdx_append, List.map_append]
  have htail : (((textsByScope a.named).map searched).zipIdx (0 + 1)).map
      (fun p => ("p_" ++ toString p.2, p.1)) =
      (textsByScope a.named).zipIdx.map fun p =>
        ("p_" ++ toString (p.2 + 1), searched p.1) := by
    rw [List.zipIdx_succ, List.zipIdx_map, List.map_map, List.map_map]
    rfl
  rw [htail]
  exact List.prefix_append _ _

end Assembly

/-! ### Matches -/

/-- The texts of a scope as they are looked for. -/
def Parts.query {ν : Type} (p : Parts ν) : Scope → Option (TextQuery ν)
  | .all => p.anywhere
  | .posts => p.postsOnly
  | .comments => p.commentsOnly

/-- The column that the texts of a scope are looked for in, `own` being that of the selection. -/
def matchedColumn (own : String) : Scope → String
  | .all => own
  | .posts => "p.body_tsvector"
  | .comments => "c.body_tsvector"

/-- The matches that a selection by bodies in the column `own` asks for. -/
def Parts.textMatches {ν : Type} (p : Parts ν) (own : String) : List (Restriction ν) :=
  matching own p.anywhere ++ matching "p.body_tsvector" p.postsOnly ++
    matching "c.body_tsvector" p.commentsOnly

theorem Parts.mem_textMatches {ν : Type} {p : Parts ν} {own : String} {s : Scope} {q : TextQuery ν}
    (h : q ∈ p.query s) : .atom (.matchesText (matchedColumn own s) q) ∈ p.textMatches own := by
  have hmatching : ∀ {column : String} {query : Option (TextQuery ν)}, q ∈ query →
      .atom (.matchesText column q) ∈ matching column query := by
    rintro column query ⟨⟩
    exact List.mem_singleton_self _
  unfold textMatches
  cases s with
  | all => exact List.mem_append_left _ (List.mem_append_left _ (hmatching h))
  | posts => exact List.mem_append_left _ (List.mem_append_right _ (hmatching h))
  | comments => exact List.mem_append_right _ (hmatching h)

theorem Parts.textMatches_subset {ν : Type} {p : Parts ν} {own : String}
    (hown : own = "p.body_tsvector" ∨ own = "c.body_tsvector") :
    p.textMatches own ⊆ p.restrictions := by
  intro f hf
  simp only [textMatches, List.mem_append] at hf
  simp only [restrictions, List.mem_append]
  rcases hf with (hf | hf) | hf
  · rcases hown with rfl | rfl
    · exact Or.inl (Or.inl (Or.inl (Or.inr hf)))
    · exact Or.inl (Or.inl (Or.inr hf))
  · exact Or.inl (Or.inr hf)
  · exact Or.inr hf

/-- The lines of a member find nothing, or what matches all texts. -/
def LooksFor (query : Scope → Option (TextQuery Placeholder)) (own : String)
    (member : List String) : Prop :=
  ∃ w, whereTexts member = [w] ∧ (w = "false" ∨
    ∀ s, ∀ q ∈ query s, HasConjunct (matchedColumn own s ++ " @@ " ++ q.text) w)

namespace Assembly

/-- In the parts, texts of all scopes are looked for as the tokens have them. -/
theorem query_eq (a : Assembly site options tokens compiled) (s : Scope) :
    (a.parts.query s).map (TextQuery.map compiled.params.value?) =
      (plainScopeQuery? options.textSearchConfig a.named s).map (TextQuery.map some) := by
  have hvalues := a.bound.values
  cases s with
  | all => exact congrArg Parts.anywhere hvalues
  | posts => exact congrArg Parts.postsOnly hvalues
  | comments => exact congrArg Parts.commentsOnly hvalues

/-- A selection by bodies in the column `own` looks for all texts. -/
theorem looksFor (a : Assembly site options tokens compiled) (hpost : site.postRule = none)
    (hcomment : site.commentRule = none) {own : String} {authors days : Restriction Placeholder}
    (hown : own = "p.body_tsvector" ∨ own = "c.body_tsvector")
    (hauthors : authors ∈ a.parts.restrictions) (hdays : days ∈ a.parts.restrictions) :
    LooksFor a.parts.query own (a.parts.selection a.sort
      (.all [.all (a.parts.textMatches own), authors, days])).lines := by
  have hparts := a.sound_parts hpost hcomment
  have hmatches : ∀ f ∈ a.parts.textMatches own, Sound compiled.params f := fun f hf =>
    hparts f (Parts.textMatches_subset hown hf)
  have hpieces : ∀ f ∈ [.all (a.parts.textMatches own), authors, days], Sound compiled.params f := by
    simp only [List.forall_mem_cons]
    exact ⟨sound_all _ hmatches, hparts _ hauthors, hparts _ hdays, fun f hf => nomatch hf⟩
  have hrows : ∀ f ∈ [.all [.all (a.parts.textMatches own), authors, days], a.parts.common],
      Sound compiled.params f :=
    List.forall_mem_cons.2 ⟨sound_all _ hpieces,
      List.forall_mem_singleton.2 (Parts.conditions_induction sound_all hparts).1⟩
  refine ⟨_, Selection.whereTexts_lines _, ?_⟩
  rw [or_iff_not_imp_left]
  intro hfound s q hq
  have hv : isNontrivial (Atom.matchesText (matchedColumn own s) q).text = true :=
    Atom.isNontrivial_text _ rfl
  have hall := a.hasConjunct_all hv hmatches (Parts.mem_textMatches hq) (Or.inr .self)
  have hselection := a.hasConjunct_all hv hpieces List.mem_cons_self hall
  exact (a.hasConjunct_all hv hrows List.mem_cons_self hselection).resolve_left hfound

end Assembly

/-! ### Compiled statements -/

/-- In a compiled query with texts, the configuration is bound first and then every text once: those
looked for anywhere, in posts, in comments. Every member of the statement finds nothing or what
matches the texts of all scopes that have any, each in the column of its scope. -/
theorem compile_texts {c : Choices} (hpost : site.postRule = none)
    (hcomment : site.commentRule = none) (h : (c.compile site tokens).result = .ok compiled)
    (hne : tokens.flatMap Token.texts ≠ []) :
    (textsByScope tokens).Perm (tokens.flatMap Token.texts) ∧
    (("p_0", c.textSearchConfig) :: (textsByScope tokens).zipIdx.map fun p =>
      ("p_" ++ toString (p.2 + 1), searched p.1)) <+: compiled.params.entries ∧
    ∃ query : Scope → Option (TextQuery Placeholder),
      (∀ s, (query s).map (TextQuery.map compiled.params.value?) =
        (plainScopeQuery? c.textSearchConfig tokens s).map (TextQuery.map some)) ∧
      (∀ s, textsIn s tokens ≠ [] → (query s).isSome) ∧
      ∃ byPosts byComments,
        unionMembers compiled.statement.text =
          (if touches Scope.coversPosts tokens || !touches Scope.coversComments tokens then
            [byPosts] else []) ++
          (if touches Scope.coversComments tokens then [byComments] else []) ∧
        LooksFor query "p.body_tsvector" byPosts ∧
        LooksFor query "c.body_tsvector" byComments := by
  obtain ⟨o, ho, ⟨a⟩⟩ := Choices.compile_ok h
  have hnamed := nameViewerIn_ok a.naming
  have htexts : textsByScope a.named = textsByScope tokens := by
    simp only [textsByScope, textsIn_named hnamed]
  have hperm := textsByScope_perm tokens
  refine ⟨hperm, ?_, a.parts.query, fun s => ?_, fun s hs => ?_, ?_⟩
  · rw [← htexts, ← ho.config]
    refine a.entries_texts (htexts ▸ fun hnil => hne ?_)
    exact List.nil_perm.1 (hnil ▸ hperm)
  · rw [a.query_eq, plainScopeQuery_named hnamed, ho.config]
  · have hquery := congrArg Option.isSome (a.query_eq s)
    rw [Option.isSome_map, Option.isSome_map, plainScopeQuery_named hnamed] at hquery
    rw [hquery]
    by_contra hnone
    refine hs (List.map_eq_nil_iff.1 ((values_plainScopeQuery o.textSearchConfig tokens s).symm.trans ?_))
    rw [Option.not_isSome_iff_eq_none.1 hnone]
    rfl
  · rw [Statement.unionMembers_text (a.inline hpost hcomment) a.selections_ne_nil, a.statement]
    rw [← touches_named Scope.coversPosts hnamed, ← touches_named Scope.coversComments hnamed]
    refine ⟨(a.parts.selection a.sort a.parts.ownOfPosts).lines,
      (a.parts.selection a.sort a.parts.ownOfComments).lines, ?_,
      a.looksFor hpost hcomment (Or.inl rfl) ?_ ?_, a.looksFor hpost hcomment (Or.inr rfl) ?_ ?_⟩
    · rw [Parts.statement, List.map_append, a.isSome_visibleComments]
      simp only [apply_ite (List.map Selection.lines), List.map_singleton, List.map_nil]
    all_goals simp only [Parts.restrictions, List.mem_append, List.mem_cons, true_or, or_true]

theorem texts_of_search : ∃ compiled,
    (Options.default.toChoices.compile Site.small
      [.sequence [[⟨false, false, "cat"⟩]], .inScope .posts [⟨false, false, "dog*"⟩],
        .scopeStart .comments, .sequence [[⟨true, true, "white mouse"⟩]]]).result = .ok compiled ∧
    [("p_0", .text "pg_catalog.simple"), ("p_1", .text "cat"), ("p_2", .text "'dog':*"),
      ("p_3", .text "white mouse")] <+: compiled.params.entries := by
  obtain ⟨compiled, h⟩ := exists_eq_ok (x := (Options.default.toChoices.compile Site.small
    [.sequence [[⟨false, false, "cat"⟩]], .inScope .posts [⟨false, false, "dog*"⟩],
      .scopeStart .comments, .sequence [[⟨true, true, "white mouse"⟩]]]).result) (by decide +kernel)
  obtain ⟨-, hentries, -⟩ := compile_texts rfl rfl h (List.cons_ne_nil _ _)
  refine ⟨compiled, h, ?_⟩
  convert hentries using 1
  decide +kernel

end Search

end PostSearch
