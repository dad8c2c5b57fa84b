import PostSearch.Proofs.Query.Trimming
import PostSearch.Proofs.Search.Parts
import PostSearch.Proofs.Sql.QuotedLexemes
import PostSearch.Proofs.Sql.TextQueryTexts

/-! # Different texts are looked for differently

The texts of a sequence become one expression, whose text and bound values tell what was looked
for: the text gives back the tree with its placeholders (`prefixFree_isSequence`), the placeholders
stand for the values in place, and of a trimmed word nothing is lost in its lexeme
(`leafQuery_inj`).

Main statement: sequences of parsed queries with the same text and the same bound values are the
same (`rendered?_inj`). -/

namespace PostSearch.Search

open Query Sql

variable {config : Datum} {ps : Params} {q : TextQuery Placeholder}

/-- The text of the query of a token and the values bound for it, where nothing is bound before. -/
def rendered? (config : Datum) (stem : String) (t : Token) :
    Option (String × List (String × Datum)) :=
  (tokenQuery? config t).map fun binding =>
    ((binding (.empty stem)).1.text, (binding (.empty stem)).2.entries)

/-! ### Expressions of texts -/

theorem eq_of_map_eq {α β : Type} {f : α → β} : ∀ {xs ys : List α},
    (∀ x ∈ xs, ∀ y ∈ ys, f x = f y → x = y) → xs.map f = ys.map f → xs = ys
  | [], [], _, _ => rfl
  | [], _ :: _, _, h => by cases h
  | _ :: _, [], _, h => by cases h
  | x :: xs, y :: ys, hf, h => by
      rw [List.map_cons, List.map_cons] at h
      obtain ⟨hxy, hrest⟩ := List.cons.inj h
      have hx := hf x List.mem_cons_self y List.mem_cons_self hxy
      have hxs := eq_of_map_eq (fun x hx y hy =>
        hf x (List.mem_cons_of_mem _ hx) y (List.mem_cons_of_mem _ hy)) hrest
      rw [hx, hxs]

theorem matchMode_eq_phrase {leaf : Leaf} : matchMode leaf = .phrase ↔ leaf.isPhrase = true := by
  unfold matchMode
  split
  · simp [*]
  · split <;> simp [*]

theorem matchMode_eq_stem {leaf : Leaf} : matchMode leaf = .stem ↔ leaf.isStem = true := by
  unfold matchMode
  split
  · rename_i hphrase
    simp [Leaf.isStem, hphrase]
  · split <;> simp [*]

/-- The lexeme of a trimmed word with a star at its end tells the word. -/
theorem stemLexeme_inj {v w : List Char} (hv : IsTrimmed v) (hw : IsTrimmed w)
    (hvstar : v.getLast? = some '*') (hwstar : w.getLast? = some '*')
    (h : stemLexeme v = stemLexeme w) : v = w := by
  have hquoted := List.append_cancel_right h
  have hword := quoteLexeme_inj hquoted
  rw [hv.dropStar hvstar, hw.dropStar hwstar, hword]

theorem leafValue_inj {l m : Leaf} (hl : l.IsTrimmed) (hm : m.IsTrimmed)
    (hmode : matchMode l = matchMode m) (h : leafValue l = leafValue m) : l.value = m.value := by
  by_cases hstem : matchMode l = .stem
  · have hstem' : matchMode m = .stem := hmode ▸ hstem
    rw [leafValue, leafValue, hstem, hstem'] at h
    obtain ⟨hphrase, hstar⟩ := Leaf.isStem_iff.1 (matchMode_eq_stem.1 hstem)
    obtain ⟨hphrase', hstar'⟩ := Leaf.isStem_iff.1 (matchMode_eq_stem.1 hstem')
    have htrimmed : IsTrimmed l.value.toList := hl.resolve_left (by simp [hphrase])
    have htrimmed' : IsTrimmed m.value.toList := hm.resolve_left (by simp [hphrase'])
    have hlexeme := String.ofList_inj.1 h
    exact String.toList_inj.1 (stemLexeme_inj htrimmed htrimmed' hstar hstar' hlexeme)
  · have hvalue : ∀ leaf : Leaf, matchMode leaf ≠ .stem → leafValue leaf = leaf.value := by
      intro leaf hne
      unfold leafValue
      split
      · exact absurd ‹_› hne
      · rfl
      · rfl
    rwa [hvalue l hstem, hvalue m (hmode ▸ hstem)] at h

/-- A phrase or a trimmed word is told by its expression. -/
theorem leafQuery_inj {l m : Leaf} (hl : l.IsTrimmed) (hm : m.IsTrimmed)
    (h : leafQuery config l = leafQuery config m) : l = m := by
  obtain ⟨-, hexcluded, hmode, hvalue⟩ := TextQuery.term.inj h
  have hphrase : l.isPhrase = m.isPhrase := by
    rw [Bool.eq_iff_iff, ← matchMode_eq_phrase, ← matchMode_eq_phrase, hmode]
  have hvalue := leafValue_inj hl hm hmode (Datum.text.inj hvalue)
  obtain ⟨excluded, isPhrase, value⟩ := l
  obtain ⟨excluded', isPhrase', value'⟩ := m
  obtain rfl : excluded = excluded' := hexcluded
  obtain rfl : isPhrase = isPhrase' := hphrase
  obtain rfl : value = value' := hvalue
  rfl

theorem groupQuery_inj {g h : Group} (hg : ∀ leaf ∈ g, leaf.IsTrimmed)
    (hh : ∀ leaf ∈ h, leaf.IsTrimmed) (heq : groupQuery config g = groupQuery config h) :
    g = h := by
  unfold groupQuery at heq
  have hparts := (TextQuery.joined.inj heq).2
  apply eq_of_map_eq _ hparts
  intro l hl m hm hlm
  exact leafQuery_inj (hg l hl) (hh m hm) hlm

/-! ### Bound expressions -/

theorem isTerm_of_map {c v : Datum} {excluded : Bool} {mode : MatchMode}
    (h : q.map ps.value? = (TextQuery.term c excluded mode v).map some) : IsTerm ps.stem q := by
  cases q with
  | joined => cases h
  | term config excluded' mode' value =>
      obtain ⟨hc, rfl, rfl, hv⟩ := TextQuery.term.inj h
      have hconfig := (Params.value?_isSome_iff.1 (Option.isSome_of_eq_some hc)).1
      have hvalue := (Params.value?_isSome_iff.1 (Option.isSome_of_eq_some hv)).1
      exact ⟨config, _, _, value, rfl, hconfig, hvalue⟩

theorem isJoined_of_map {joint : TextJoint} {parts : List (TextQuery Datum)}
    {P : TextQuery Placeholder → Prop} (hne : parts ≠ [])
    (hP : ∀ p ∈ parts, ∀ r : TextQuery Placeholder, r.map ps.value? = p.map some → P r)
    (h : q.map ps.value? = (TextQuery.joined joint parts).map some) : IsJoined joint P q := by
  cases q with
  | term => cases h
  | joined joint' rs =>
      rw [TextQuery.map, TextQuery.map, TextQuery.mapAll_eq, TextQuery.mapAll_eq] at h
      obtain ⟨rfl, hparts⟩ := TextQuery.joined.inj h
      have hrs : rs ≠ [] := by
        rintro rfl
        apply hne
        simpa using hparts.symm
      obtain ⟨first, rest, rfl⟩ := List.exists_cons_of_ne_nil hrs
      refine ⟨first, rest, rfl, ?_⟩
      intro r hr
      have hmem := List.mem_map_of_mem (f := TextQuery.map ps.value?) hr
      rw [hparts] at hmem
      obtain ⟨p, hp, hpr⟩ := List.mem_map.1 hmem
      exact hP p hp r hpr.symm

theorem isGroup_of_map {g : Group} (hne : g ≠ [])
    (h : q.map ps.value? = (groupQuery config g).map some) : IsGroup ps.stem q := by
  apply isJoined_of_map _ _ h
  · simpa using hne
  · intro p hp r hr
    obtain ⟨leaf, -, rfl⟩ := List.mem_map.1 hp
    exact isTerm_of_map hr

theorem isSequence_of_map {gs : List Group} (hne : gs ≠ []) (hgroups : ∀ g ∈ gs, g ≠ [])
    (h : q.map ps.value? = (TextQuery.joined .adjacent (gs.map (groupQuery config))).map some) :
    IsSequence ps.stem q := by
  apply isJoined_of_map _ _ h
  · simpa using hne
  · intro p hp r hr
    obtain ⟨g, hg, rfl⟩ := List.mem_map.1 hp
    exact isGroup_of_map (hgroups g hg) hr

/-! ### Sequences of parsed queries -/

theorem value?_eq_of_entries {qs : Params} (hstem : ps.stem = qs.stem)
    (h : ps.entries = qs.entries) : ps.value? = qs.value? := by
  have hvalues : ∀ rs : Params, rs.entries.map Prod.snd = rs.values := by
    intro rs
    rw [Params.entries_eq, List.map_map]
    exact List.zipIdx_map_fst 0 rs.values
  have hsame : ps.values = qs.values := by rw [← hvalues, h, hvalues]
  funext p
  rw [Params.value?, Params.value?, hstem, hsame]

/-- What is known of a sequence of a parsed query: its expression is bound as a sequence, whose
placeholders stand for the values. -/
theorem bind_sequence {gs : List Group} (hwell : (Token.sequence gs).WellFormed) (config : Datum)
    (stem : String) :
    let bound := (TextQuery.joined .adjacent (gs.map (groupQuery config))).bind (.empty stem)
    IsSequence stem bound.1 ∧ bound.2.stem = stem ∧ bound.1.map bound.2.value? =
      (TextQuery.joined .adjacent (gs.map (groupQuery config))).map some := by
  intro bound
  cases hwell with
  | sequence hne hgroups =>
      have hconfig : (TextQuery.joined .adjacent (gs.map (groupQuery config))).HasConfig config :=
        plainQuery_hasConfig (t := .sequence gs) rfl
      obtain ⟨hextends, -, hvalues⟩ := TextQuery.faithful_textQuery _ hconfig (.empty stem)
        (Params.configIs_empty config stem)
      have hbound := hvalues bound.2 (Params.Extends.refl bound.2)
      have hstem : bound.2.stem = stem := hextends.stem
      refine ⟨?_, hstem, hbound⟩
      rw [← hstem]
      exact isSequence_of_map hne hgroups hbound

/-- Texts that are looked for one after the other, in two parsed queries, are the same texts in the
same groups if their expressions have the same text and the same values are bound for them. -/
theorem rendered?_inj {query query' : String} {minStem minStem' : Datum} {ts ts' : List Token}
    {gs gs' : List Group} (hts : parseWith query minStem = .ok ts)
    (hts' : parseWith query' minStem' = .ok ts') (hgs : .sequence gs ∈ ts)
    (hgs' : .sequence gs' ∈ ts') (config : Datum) (stem : String)
    (h : rendered? config stem (.sequence gs) = rendered? config stem (.sequence gs')) :
    gs = gs' := by
  obtain ⟨hshape, hstem, hbound⟩ := bind_sequence (parseWith_wellFormed hts _ hgs) config stem
  obtain ⟨hshape', hstem', hbound'⟩ := bind_sequence (parseWith_wellFormed hts' _ hgs') config stem
  obtain ⟨htext, hentries⟩ := Prod.mk.inj (Option.some.inj h)
  have htree := (prefixFree_isSequence stem).text_inj hshape hshape' htext
  have hvalue := value?_eq_of_entries (hstem.trans hstem'.symm) hentries
  have hplain : (TextQuery.joined .adjacent (gs.map (groupQuery config))).map some =
      (TextQuery.joined .adjacent (gs'.map (groupQuery config))).map some := by
    rw [← hbound, ← hbound', ← hvalue, ← htree]
  have hqueries := congrArg (TextQuery.map (Option.getD · Datum.null)) hplain
  rw [TextQuery.map_getD_map_some, TextQuery.map_getD_map_some] at hqueries
  have htrimmed : ∀ {query : String} {minStem : Datum} {ts : List Token} {gs : List Group},
      parseWith query minStem = .ok ts → .sequence gs ∈ ts →
      ∀ g ∈ gs, ∀ leaf ∈ g, leaf.IsTrimmed := by
    intro query minStem ts gs hts hgs g hg leaf hleaf
    apply isTrimmed_of_parseWith hts leaf
    exact List.mem_flatMap.2 ⟨_, hgs, List.mem_flatten.2 ⟨g, hg, hleaf⟩⟩
  apply eq_of_map_eq _ (TextQuery.joined.inj hqueries).2
  intro g hg g' hg' hgroup
  exact groupQuery_inj (htrimmed hts hgs g hg) (htrimmed hts' hgs' g' hg') hgroup

/-- Queries in small and in capital letters ask for the same texts. -/
theorem rendered?_inj_capitals : ∃ gs gs' : List Group,
    parseWith "cat* | -mouse + \"big dog\"" (.number 2) = .ok [.sequence gs] ∧
    parseWith "CAT* | -Mouse + \"Big Dog\"" (.number 3) = .ok [.sequence gs'] ∧
    rendered? (.text "english") "p" (.sequence gs) =
      rendered? (.text "english") "p" (.sequence gs') ∧ gs = gs' := by
  let gs : List Group := [[⟨false, false, "cat*"⟩, ⟨true, false, "mouse"⟩],
    [⟨false, true, "big dog"⟩]]
  have hts : parseWith "cat* | -mouse + \"big dog\"" (.number 2) = .ok [.sequence gs] := by
    decide +kernel
  have hts' : parseWith "CAT* | -Mouse + \"Big Dog\"" (.number 3) = .ok [.sequence gs] := by
    decide +kernel
  have hmem : Token.sequence gs ∈ [Token.sequence gs] := List.mem_singleton_self _
  exact ⟨gs, gs, hts, hts', rfl, rendered?_inj hts hts' hmem hmem (.text "english") "p" rfl⟩

end PostSearch.Search
