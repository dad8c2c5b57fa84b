import PostSearch.Proofs.Search.Vocabulary

/-! # Compiled statements are closed

The values of a compiled statement have the names `p_0`, `p_1` and so on, in the order in which they
were bound, and its text refers to no others. At the end, every placeholder in a part stands for the
value that the part was to bind there, and the last two are the limit and the offset of the page.

Main statement: `compile_closed`. -/

namespace PostSearch.Search

open Query Sql Clause

variable {site : Site} {options : Options} {tokens : List Token} {compiled : Compiled}

/-! ### The page is bound last -/

/-- Whatever there was before, the relation holds between the values after a run and its result. -/
def Leaves {α : Type} (m : StateM Params α) (R : Params → α → Prop) : Prop :=
  ∀ before, R (m.run before).2 (m.run before).1

theorem Leaves.bind {α β : Type} {m : StateM Params α} {k : α → StateM Params β}
    {R : Params → β → Prop} (h : ∀ a, Leaves (k a) R) : Leaves (m >>= k) R :=
  fun _ => h _ _

theorem bindParts_page (site : Site) (options : Options) (tokens : List Token) (c : Clauses) :
    Leaves (bindParts site options tokens c) fun after p =>
      p.limit.index + 2 = after.values.length ∧ p.offset.index + 1 = after.values.length := by
  unfold bindParts
  iterate 17 refine Leaves.bind fun _ => ?_
  intro before
  have hlimit : ∀ v w : Datum, before.values.length + 2 = (before.values ++ [v] ++ [w]).length := by
    simp
  have hoffset : ∀ v w : Datum,
      (before.values ++ [v]).length + 1 = (before.values ++ [v] ++ [w]).length := by
    simp
  exact ⟨hlimit _ _, hoffset _ _⟩

namespace Assembly

theorem page_indices (a : Assembly site options tokens compiled) :
    a.parts.limit.index + 2 = compiled.params.values.length ∧
      a.parts.offset.index + 1 = compiled.params.values.length := by
  have h := bindParts_page site options a.named a.clauses (Params.empty Params.defaultStem)
  rw [a.binding] at h
  exact h

/-- The value of a placeholder is found by its number. -/
theorem values_index {p : Placeholder} {v : Datum} (h : compiled.params.value? p = some v) :
    compiled.params.values[p.index]? = some v := by
  have hs : p.stem = compiled.params.stem :=
    (Params.value?_isSome_iff.1 (by rw [h]; rfl)).1
  rw [← h, Params.value?, if_pos hs]

end Assembly

/-! ### The end of a statement -/

theorem joinWith_concat (sep s : String) : ∀ {parts : List String}, parts ≠ [] →
    Text.joinWith sep (parts ++ [s]) = Text.joinWith sep parts ++ sep ++ s
  | [], h => absurd rfl h
  | [p], _ => rfl
  | p :: q :: rest, _ => by
      have hne : q :: rest ≠ [] := by simp
      have ih := joinWith_concat sep s hne
      rw [List.cons_append] at ih
      rw [List.cons_append, List.cons_append, Text.joinWith, Text.joinWith, ih]
      simp only [String.append_assoc]

theorem text_ends_with_page (s : Statement) : ∃ front, s.text = front ++ s.page := by
  have e : s.text = linesText (s.commonTable ++
      [Text.joinWith "\nunion\n" (s.selections.map Selection.text)] ++ [s.page]) := by
    rw [List.append_assoc]
    rfl
  rw [e, linesText, joinWith_concat _ _ (by simp)]
  exact ⟨_, rfl⟩

theorem page_eq (s : Statement) {m n : Nat} (hl : s.limit = ⟨"p", m⟩) (ho : s.offset = ⟨"p", n⟩) :
    s.page = "order by date desc, id desc limit :p_" ++ toString m ++ " offset :p_" ++
      toString n := by
  have e : s.page = "order by date desc, id desc limit " ++ s.limit.text ++ " offset " ++
      s.offset.text := rfl
  have htext : ∀ k, (Placeholder.mk "p" k).text = ":p_" ++ toString k := by
    intro k
    show ":" ++ ("p" ++ "_" ++ toString k) = _
    rw [← String.append_assoc, ← String.append_assoc]
    rfl
  have hlimit : "order by date desc, id desc limit :p_" =
      "order by date desc, id desc limit " ++ ":p_" := rfl
  have hoffset : " offset :p_" = " offset " ++ ":p_" := rfl
  rw [e, hl, ho, htext, htext, hlimit, hoffset]
  simp only [-String.reduceAppend, String.append_assoc]

/-! ### Compiled statements -/

namespace Assembly

theorem names_eq (a : Assembly site options tokens compiled) :
    compiled.params.entries.map Prod.fst =
      (List.range compiled.params.values.length).map fun k => "p_" ++ toString k := by
  rw [Params.names_eq, a.extends_empty.stem]
  rfl

/-- The number of a placeholder that is bound is all that is read off its text. -/
theorem lt_of_mem_text (a : Assembly site options tokens compiled) {p : Placeholder}
    (hp : (compiled.params.value? p).isSome) {k : Nat} (hk : k ∈ placeholdersIn p.text.toList) :
    k < compiled.params.values.length := by
  obtain ⟨hs, hlt⟩ := a.index_lt hp
  rw [placeholdersIn_text hs, List.mem_singleton] at hk
  rwa [hk]

theorem lt_of_mem_placeholdersIn (a : Assembly site options tokens compiled)
    (hpost : site.postRule = none) (hcomment : site.commentRule = none) {k : Nat}
    (hk : k ∈ placeholdersIn compiled.statement.text.toList) :
    k < compiled.params.values.length := by
  rcases Statement.mem_placeholdersIn (a.inline hpost hcomment) a.selections_ne_nil hk with
    ⟨f, hf, hk⟩ | hk | hk
  · obtain ⟨p, hp, hk⟩ := (a.sound_restrictions hpost hcomment f hf).mem_read
      reading_placeholders (by decide +kernel) hk
    exact a.lt_of_mem_text hp hk
  · rw [a.limit_eq] at hk
    exact a.lt_of_mem_text (by rw [a.bound_limit]; rfl) hk
  · rw [a.offset_eq] at hk
    exact a.lt_of_mem_text (by rw [a.bound_offset]; rfl) hk

/-- The statement ends with the page, whose two values are the last ones. -/
theorem exists_page (a : Assembly site options tokens compiled) :
    ∃ front n, compiled.params.values.length = n + 2 ∧
      compiled.params.values[n]? = some (.number options.limit) ∧
      compiled.params.values[n + 1]? = some (.number options.offset) ∧
      compiled.statement.text = front ++ ("order by date desc, id desc limit :p_" ++ toString n ++
        " offset :p_" ++ toString (n + 1)) := by
  have hlimit := a.index_lt (p := a.parts.limit) (by rw [a.bound_limit]; rfl)
  have hoffset := a.index_lt (p := a.parts.offset) (by rw [a.bound_offset]; rfl)
  obtain ⟨hl₂, ho₁⟩ := a.page_indices
  have hindex : a.parts.offset.index = a.parts.limit.index + 1 := by omega
  obtain ⟨front, hfront⟩ := text_ends_with_page compiled.statement
  refine ⟨front, a.parts.limit.index, hl₂.symm, values_index a.bound_limit, ?_, ?_⟩
  · rw [← hindex]
    exact values_index a.bound_offset
  · rw [hfront, page_eq]
    · rw [a.limit_eq, ← hlimit.1]
    · rw [a.offset_eq, ← hindex, ← hoffset.1]

end Assembly

/-- The values of a compiled statement are named in the order of their binding, its placeholders are
among them, every part stands for the values it was to bind, and the page comes last. -/
theorem compile_closed {c : Choices} (hpost : site.postRule = none)
    (hcomment : site.commentRule = none) (h : (c.compile site tokens).result = .ok compiled) :
    ∃ o, c.Reads o ∧ ∃ a : Assembly site o tokens compiled,
      compiled.params.entries.map Prod.fst =
        (List.range compiled.params.values.length).map (fun k => "p_" ++ toString k) ∧
      (∀ k ∈ placeholdersIn compiled.statement.text.toList, k < compiled.params.values.length) ∧
      a.parts.map compiled.params.value? = (plainParts site o a.named a.clauses).map some ∧
      ∃ front n, compiled.params.values.length = n + 2 ∧
        compiled.params.values[n]? = some (.number o.limit) ∧
        compiled.params.values[n + 1]? = some (.number o.offset) ∧
        compiled.statement.text = front ++ ("order by date desc, id desc limit :p_" ++ toString n ++
          " offset :p_" ++ toString (n + 1)) := by
  obtain ⟨o, ho, ⟨a⟩⟩ := Choices.compile_ok h
  refine ⟨o, ho, a, a.names_eq, ?_, a.bound.values, a.exists_page⟩
  exact fun k hk => a.lt_of_mem_placeholdersIn hpost hcomment hk

/-- The usual page has thirty posts. -/
theorem names_of_search : ∃ compiled,
    (Options.default.toChoices.compile Site.small
      [.sequence [[⟨false, false, "cat"⟩]], .condition ⟨false, .textBy, ["alice"]⟩]).result =
        .ok compiled ∧
    compiled.params.entries.map Prod.fst =
      (List.range compiled.params.values.length).map (fun k => "p_" ++ toString k) ∧
    (∀ k ∈ placeholdersIn compiled.statement.text.toList, k < compiled.params.values.length) ∧
    (∃ o, ∃ a : Assembly Site.small o
        [.sequence [[⟨false, false, "cat"⟩]], .condition ⟨false, .textBy, ["alice"]⟩] compiled,
      a.parts.map compiled.params.value? =
        (plainParts Site.small o a.named a.clauses).map some) ∧
    ∃ front n, compiled.params.values.length = n + 2 ∧
      compiled.params.values[n]? = some (.number 30) ∧
      compiled.params.values[n + 1]? = some (.number 0) ∧
      compiled.statement.text = front ++ ("order by date desc, id desc limit :p_" ++ toString n ++
        " offset :p_" ++ toString (n + 1)) := by
  obtain ⟨compiled, h⟩ := exists_eq_ok (x := (Options.default.toChoices.compile Site.small
    [.sequence [[⟨false, false, "cat"⟩]], .condition ⟨false, .textBy, ["alice"]⟩]).result)
    (by decide +kernel)
  obtain ⟨o, ho, a, hnames, hbound, hparts, hpage⟩ := compile_closed rfl rfl h
  have hlimit : (30 : Int) = o.limit := Except.ok.inj ho.limit
  have hoffset : (0 : Int) = o.offset := Except.ok.inj ho.offset
  rw [← hlimit, ← hoffset] at hpage
  exact ⟨compiled, h, hnames, hbound, ⟨o, a, hparts⟩, hpage⟩

end PostSearch.Search
