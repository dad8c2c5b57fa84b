import PostSearch.Proofs.Search.Vocabulary
import PostSearch.Proofs.Sql.Solid
import PostSearch.Proofs.Sql.Sources
import PostSearch.Proofs.Sql.Tidy

/-! # Visibility is kept

Whatever a query asks for, a compiled statement never finds more than the viewer may see: in every
selection the condition on rows is `false`, or visibility of posts is a conjunct of it, and comments
are joined only with their visibility.

Main statement: `compile_visible`. -/

namespace PostSearch.Search

open Query Sql Clause

/-! ### Conjuncts -/

/-- The text `v` is a conjunct: it stands alone, or in a conjunction, or in a conjunction within
one. -/
inductive HasConjunct (v : String) : String → Prop
  | self : HasConjunct v v
  | group {parts : List String} {x : String} (two : 2 ≤ parts.length) (mem : x ∈ parts)
      (operands : ∀ p ∈ parts, IsOperand p) (conjunct : HasConjunct v x) :
      HasConjunct v ("(" ++ Text.joinWith " and " parts ++ ")")

theorem HasConjunct.isNontrivial {v s : String} (h : HasConjunct v s)
    (hv : isNontrivial v = true) : isNontrivial s = true := by
  cases h with
  | self => exact hv
  | group => exact isNontrivial_grouped "and" _

/-- A conjunction is false, or has the conjuncts of its parts. -/
theorem hasConjunct_conjoin {v x : String} {parts : List String} (hv : isNontrivial v = true)
    (hx : x ∈ parts) (h : HasConjunct v x) (ho : ∀ p ∈ parts, IsOperand p) :
    conjoin parts = "false" ∨ HasConjunct v (conjoin parts) := by
  obtain ⟨hne, htrue, -⟩ := isNontrivial_iff.1 (h.isNontrivial hv)
  rcases conjoin_of_mem hx hne htrue with e | e | ⟨ps, hl, hp, hs, e⟩
  · exact Or.inl e
  · refine Or.inr ?_
    rwa [e]
  · refine Or.inr ?_
    rw [e]
    exact HasConjunct.group hl hp (fun p hp => ho p (hs hp)) h

/-- The same if the part may be false. -/
theorem hasConjunct_conjoin_or {v x : String} {parts : List String} (hv : isNontrivial v = true)
    (hx : x ∈ parts) (h : x = "false" ∨ HasConjunct v x) (ho : ∀ p ∈ parts, IsOperand p) :
    conjoin parts = "false" ∨ HasConjunct v (conjoin parts) := by
  rcases h with rfl | h
  · exact Or.inl (conjoin_eq_false hx)
  · exact hasConjunct_conjoin hv hx h ho

/-! ### Visibility depends on the row -/

theorem isSolid_visiblePosts (viewer : Option Placeholder) :
    (Clause.visiblePosts viewer).isSolid = true := by
  have hcolumns : ∀ column ∈ ["p.is_protected", "p.is_private"], isNontrivial column = true := by
    decide +kernel
  cases viewer with
  | none => exact hcolumns _ List.mem_cons_self
  | some viewer => exact hcolumns _ (List.mem_cons_of_mem _ List.mem_cons_self)

variable {site : Site} {options : Options} {tokens : List Token} {compiled : Compiled}

namespace Assembly

theorem isNontrivial_visible (a : Assembly site options tokens compiled)
    (hpost : site.postRule = none) : isNontrivial a.parts.visiblePosts.text = true := by
  obtain ⟨before, h, -⟩ := a.bound.posts
  rw [postVisibility, hpost] at h
  rw [← h]
  exact Restriction.isNontrivial_text _ (isSolid_visiblePosts _)

theorem isTidy_placeholder {p : Placeholder} (h : p.stem = "p") : IsTidy p.text := by
  have hdigit : ∀ {c : Char}, c.isDigit = false → c ∉ Nat.toDigits 10 p.index := by
    intro c hc hmem
    rw [Nat.isDigit_of_mem_toDigits (by decide) (by decide) hmem] at hc
    cases hc
  have ho := hdigit (c := '(') rfl
  have hc := hdigit (c := ')') rfl
  have hb := hdigit (c := ' ') rfl
  apply isTidy_of_word <;> rw [text_toList h] <;> simp [ho, hc, hb]

theorem isOperand_of_sound (a : Assembly site options tokens compiled)
    {f : Restriction Placeholder} (h : Sound compiled.params f) : IsOperand f.text := by
  have hwords : ∀ w ∈ vocabulary, IsTidy w := by decide +kernel
  refine (f.isTidy_text (fun w hw => hwords w (h.columns hw)) fun p hp => ?_).isOperand
  exact isTidy_placeholder (a.index_lt (h.operands p hp)).1

/-- What is a conjunct of one of several sound restrictions is a conjunct of all of them, unless
nothing is found. -/
theorem hasConjunct_all (a : Assembly site options tokens compiled) {v : String}
    (hv : isNontrivial v = true) {fs : List (Restriction Placeholder)}
    (hfs : ∀ f ∈ fs, Sound compiled.params f) {f : Restriction Placeholder} (hf : f ∈ fs)
    (h : f.text = "false" ∨ HasConjunct v f.text) :
    (Restriction.all fs).text = "false" ∨ HasConjunct v (Restriction.all fs).text := by
  rw [Restriction.text, Restriction.texts_eq]
  refine hasConjunct_conjoin_or hv (List.mem_map_of_mem hf) h fun s hs => ?_
  obtain ⟨g, hg, rfl⟩ := List.mem_map.1 hs
  exact a.isOperand_of_sound (hfs g hg)

/-- In a selection with sound conditions, visibility of posts is a conjunct unless nothing is found.
-/
theorem hasConjunct_rows (a : Assembly site options tokens compiled) (hpost : site.postRule = none)
    (hcomment : site.commentRule = none) {own : Restriction Placeholder}
    (hown : Sound compiled.params own) (sort : SortKey) :
    (a.parts.selection sort own).rows.text = "false" ∨
      HasConjunct a.parts.visiblePosts.text (a.parts.selection sort own).rows.text := by
  have hv := a.isNontrivial_visible hpost
  have hparts := a.sound_parts hpost hcomment
  have hcommon : a.parts.common.text = "false" ∨
      HasConjunct a.parts.visiblePosts.text a.parts.common.text := by
    refine a.hasConjunct_all hv (fun f hf => hparts f ?_) (f := a.parts.visiblePosts) ?_
      (Or.inr HasConjunct.self)
    · simp only [List.mem_cons, List.not_mem_nil, or_false] at hf
      rcases hf with rfl | rfl | rfl | rfl | rfl | rfl <;>
        simp only [Parts.restrictions, List.mem_append, List.mem_cons, true_or, or_true]
    · simp only [List.mem_cons, true_or, or_true]
  refine a.hasConjunct_all hv ?_ (List.mem_cons_of_mem _ List.mem_cons_self) hcommon
  simp only [List.forall_mem_cons]
  exact ⟨hown, (Parts.conditions_induction sound_all hparts).1,
    fun f hf => absurd hf List.not_mem_nil⟩

end Assembly

/-! ### Compiled statements -/

theorem Parts.restrictions_joins (p : Parts Placeholder) :
    p.joins.filterMap Join.restriction? = p.visibleComments.toList := by
  have hneeded : ∀ f join, Join.restriction? join = none →
      (neededFor f join).filterMap Join.restriction? = [] := by
    intro f join h
    unfold neededFor
    split <;> simp [h]
  simp only [joins, List.filterMap_append]
  rw [hneeded _ _ rfl, hneeded _ _ rfl, hneeded _ _ rfl, hneeded _ _ rfl]
  cases p.visibleComments <;> rfl

/-- Every member of a compiled statement has visibility of posts as a conjunct or finds nothing, and
joins comments at most once, with their visibility. -/
theorem compile_visible {c : Choices} (hpost : site.postRule = none)
    (hcomment : site.commentRule = none) (h : (c.compile site tokens).result = .ok compiled) :
    ∃ o, c.Reads o ∧ ∃ a : Assembly site o tokens compiled,
      RanAs (postVisibility site c.viewer) compiled.params a.parts.visiblePosts ∧
      (∀ f ∈ a.parts.visibleComments,
        RanAs (commentVisibility site c.viewer "c") compiled.params f) ∧
      unionMembers compiled.statement.text ≠ [] ∧
      ∀ m ∈ unionMembers compiled.statement.text,
        (∃ w, whereTexts m = [w] ∧
          (w = "false" ∨ HasConjunct a.parts.visiblePosts.text w)) ∧
        (linesOn "comments" m = [] ∨
          ∃ f ∈ a.parts.visibleComments, linesOn "comments" m =
            ["left join comments c on c.post_id = p.uid and " ++ f.text]) := by
  obtain ⟨o, ho, ⟨a⟩⟩ := Choices.compile_ok h
  have hmembers := Statement.unionMembers_text (a.inline hpost hcomment) a.selections_ne_nil
  obtain ⟨-, hposts, hcomments⟩ :=
    Parts.conditions_induction sound_all (a.sound_parts hpost hcomment)
  have hselection : ∀ s ∈ compiled.statement.selections, ∃ own, Sound compiled.params own ∧
      s = a.parts.selection a.sort own := by
    intro s hs
    rw [a.statement] at hs
    rcases Parts.mem_selections.1 hs with ⟨-, rfl⟩ | ⟨-, rfl⟩
    · exact ⟨_, hposts, rfl⟩
    · exact ⟨_, hcomments, rfl⟩
  rw [hmembers, ← ho.viewer]
  refine ⟨o, ho, a, a.bound.posts, a.bound.comments, by simpa using a.selections_ne_nil, ?_⟩
  intro m hm
  obtain ⟨s, hs, rfl⟩ := List.mem_map.1 hm
  obtain ⟨own, hown, rfl⟩ := hselection s hs
  refine ⟨⟨_, Selection.whereTexts_lines _, a.hasConjunct_rows hpost hcomment hown a.sort⟩, ?_⟩
  have hjoins : (a.parts.selection a.sort own).joins = a.parts.joins := rfl
  rw [Selection.linesOn_comments, hjoins, Parts.restrictions_joins]
  cases hv : a.parts.visibleComments with
  | none => exact Or.inl rfl
  | some f => exact Or.inr ⟨f, rfl, rfl⟩

/-- Without a viewer, posts have to be open to everyone, and comments must not be hidden. -/
theorem hasConjunct_of_search : ∃ compiled,
    (Options.default.toChoices.compile Site.small
      [.sequence [[⟨false, false, "cat"⟩]], .condition ⟨true, .postBy, ["alice"]⟩]).result =
        .ok compiled ∧
    ∃ visible, RanAs (postVisibility Site.small none) compiled.params visible ∧
      visible.text = "(not p.is_protected and u.gone_status is null)" ∧
      unionMembers compiled.statement.text ≠ [] ∧
      ∀ m ∈ unionMembers compiled.statement.text,
        (∃ w, whereTexts m = [w] ∧ (w = "false" ∨ HasConjunct visible.text w)) ∧
        (linesOn "comments" m = [] ∨
          linesOn "comments" m =
            ["left join comments c on c.post_id = p.uid and c.hide_type = 0"]) := by
  obtain ⟨compiled, h⟩ := exists_eq_ok (x := (Options.default.toChoices.compile Site.small
    [.sequence [[⟨false, false, "cat"⟩]], .condition ⟨true, .postBy, ["alice"]⟩]).result)
    (by decide +kernel)
  obtain ⟨o, -, a, hposts, hcomments, hne, hmembers⟩ := compile_visible rfl rfl h
  have hvisible : a.parts.visiblePosts = Clause.visiblePosts none := hposts.choose_spec.1.symm
  refine ⟨compiled, h, _, hposts, hvisible ▸ by decide +kernel, hne, fun m hm => ?_⟩
  obtain ⟨hwhere, hjoin⟩ := hmembers m hm
  refine ⟨hwhere, hjoin.imp_right ?_⟩
  rintro ⟨f, hf, hlines⟩
  have hcomment : f = Clause.visibleComments "c" none := (hcomments f hf).choose_spec.1.symm
  rw [hlines, hcomment]
  decide +kernel

end PostSearch.Search
