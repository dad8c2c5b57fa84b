import PostSearch.Proofs.Sql.Reads

/-! # What texts mean

The truth of a restriction is defined on its tree, while its text simplifies as it is written. A
restriction of comparisons is read as the truth of the tree, whatever operands have been bound, and
as nothing else (`Restriction.readsIn`). -/

namespace PostSearch.Sql

variable {ps : Params} {rows : List Row} {here : Row} {s : String} {t : Truth}

/-! ### Joined texts -/

/-- Texts that are read can be joined, and the simplification does not show. -/
theorem reads_joinParts (b : Bool) {parts : List (String × Truth)}
    (h : ∀ p ∈ parts, Reads ps rows here p.1 p.2) :
    Reads ps rows here
      (joinParts (constText b) (constText !b) (joiner b) (parts.map Prod.fst))
      (Truth.joined b (parts.map Prod.snd)) := by
  let left := parts.filter fun p => p.1 ≠ constText !b
  have hleft : kept (constText !b) (parts.map Prod.fst) = left.map Prod.fst :=
    kept_map_fst fun p hp => (h p hp).ne_empty
  have htruth : Truth.joined b (left.map Prod.snd) = Truth.joined b (parts.map Prod.snd) := by
    refine Truth.joined_congr fun t ht => ?_
    simp only [List.mem_map, left, List.mem_filter, decide_eq_true_eq]
    refine exists_congr fun p => and_congr_left ?_
    rintro rfl
    exact and_iff_left_of_imp fun hp e => ht (Reads.eq_of_const (e ▸ h p hp))
  have hread : ∀ p ∈ left, Reads ps rows here p.1 p.2 := fun p hp => h p (List.mem_filter.1 hp).1
  rw [← htruth]
  rcases joinParts_cases (constText b) (constText !b) (joiner b) (parts.map Prod.fst) with
    ⟨hmem, e⟩ | ⟨hnil, e⟩ | hone | ⟨hseveral, e⟩
  · obtain ⟨p, hp, hconst⟩ := List.mem_map.1 hmem
    have hb : Truth.joined b (left.map Prod.snd) = some b := by
      rw [htruth, Truth.joined_eq_some_iff]
      exact List.mem_map.2 ⟨p, hp, Reads.eq_of_const (hconst ▸ h p hp)⟩
    rw [e, hb]
    exact .const b
  · rw [hleft, List.map_eq_nil_iff] at hnil
    rw [e, hnil]
    exact .const !b
  · rw [hleft] at hone
    obtain ⟨p, hp, hfst⟩ := List.map_eq_singleton_iff.1 hone
    rw [← hfst, hp]
    rw [List.map_singleton, Truth.joined_singleton]
    exact hread p (hp ▸ List.mem_singleton_self p)
  · rw [hleft, List.length_map] at hseveral
    rw [e, hleft]
    exact .group b hseveral hread

theorem reads_negate (h : Reads ps rows here s t) :
    Reads ps rows here (negate s) (Truth.negation t) := by
  unfold negate
  split
  · rename_i e
    obtain rfl := Reads.eq_of_const (b := true) (e ▸ h)
    exact .const false
  · split
    · rename_i e
      obtain rfl := Reads.eq_of_const (b := false) (e ▸ h)
      exact .const true
    · split
      · exact .notGroup h
      · rename_i hword
        exact .not h (Bool.not_eq_true _ ▸ hword)

/-! ### Texts of restrictions -/

namespace Restriction

mutual

/-- The text of a restriction reads as its truth, whatever is simplified in it. -/
theorem reads_text (hrows : rows ≠ []) : ∀ (here : Row) (f : Restriction Placeholder),
    (∀ a ∈ f.atoms, a.IsOfFilter ∧ ∀ p ∈ a.operands, (ps.value? p).isSome) →
    Reads ps rows here f.text (f.truth (rows.map (Row.truthOf ps)) (here.truthOf ps))
  | here, .const b, _ => .const b
  | here, .atom a, h =>
      .atom (h a (List.mem_singleton_self a)).1 (h a (List.mem_singleton_self a)).2
  | here, .not f, h => reads_negate (reads_text hrows here f h)
  | here, .all fs, h => by
      have hjoined := reads_joinParts false (reads_texts hrows here fs h)
      rw [List.map_map, List.map_map] at hjoined
      rw [text, truth, texts_eq, truths_eq]
      exact hjoined
  | here, .any fs, h => by
      have hjoined := reads_joinParts true (reads_texts hrows here fs h)
      rw [List.map_map, List.map_map] at hjoined
      rw [text, truth, texts_eq, truths_eq]
      exact hjoined
  | here, .someRow f, h => by
      have hf : ∀ row, Reads ps rows row f.text (f.truth (rows.map (Row.truthOf ps))
          (row.truthOf ps)) := fun row => reads_text hrows row f h
      rw [text, truth, List.map_map]
      split
      · exact .someRow (fun row => f.truth (rows.map (Row.truthOf ps)) (row.truthOf ps))
          fun row _ => hf row
      · rename_i htrivial
        obtain ⟨b, hb, -⟩ := (hf here).nontrivial_or_const.resolve_left htrivial
        have hconst : ∀ t ∈ rows.map ((fun row => f.truth (rows.map (Row.truthOf ps)) row) ∘
            Row.truthOf ps), t = some b := by
          intro t ht
          obtain ⟨row, -, rfl⟩ := List.mem_map.1 ht
          exact Reads.eq_of_const (hb ▸ hf row)
        rw [(Truth.of_const (b := b) hconst (mt List.map_eq_nil_iff.1 hrows)).2, hb]
        exact .const b

theorem reads_texts (hrows : rows ≠ []) (here : Row) : ∀ fs : List (Restriction Placeholder),
    (∀ a ∈ atomsAll fs, a.IsOfFilter ∧ ∀ p ∈ a.operands, (ps.value? p).isSome) →
    ∀ p ∈ fs.map fun f => (f.text, f.truth (rows.map (Row.truthOf ps)) (here.truthOf ps)),
      Reads ps rows here p.1 p.2
  | [], _, p, hp => nomatch hp
  | f :: fs, h, p, hp => by
      rw [atomsAll, List.forall_mem_append] at h
      rcases List.mem_cons.1 hp with rfl | hp
      · exact reads_text hrows here f h.1
      · exact reads_texts hrows here fs h.2 p hp

end

end Restriction

/-! ### Bound texts -/

/-- The text is read as the truth value, and as no other. -/
def ReadsAs (ps : Params) (rows : List Row) (here : Row) (s : String) (t : Truth) : Prop :=
  ∀ t', Reads ps rows here s t' ↔ t' = t

namespace Restriction

variable {f : Restriction Datum}

/-- However the operands of the restriction have been bound, its text is read as its truth. -/
def ReadsIn (f : Restriction Datum) (rows : List Row) (here : Row) : Prop :=
  ∀ (ps : Params) (g : Restriction Placeholder), g.map ps.value? = f.map some →
    ReadsAs ps rows here g.text (f.truth (rows.map Row.truth) here.truth)

/-- What is bound is a comparison of filters if what is bound to it is one. -/
theorem isOfFilter_of_bound (hf : f.Speaks filterColumns) {g : Restriction Placeholder}
    (hbound : g.map ps.value? = f.map some) :
    ∀ a ∈ g.atoms, a.IsOfFilter ∧ ∀ p ∈ a.operands, (ps.value? p).isSome := by
  intro a ha
  have hmem : a.map ps.value? ∈ f.atoms.map (Atom.map some) := by
    rw [← atoms_map, ← hbound, atoms_map]
    exact List.mem_map_of_mem ha
  obtain ⟨b, hb, e⟩ := List.mem_map.1 hmem
  obtain ⟨hcomparison, hcolumns⟩ := hf b hb
  refine ⟨⟨?_, ?_⟩, fun p hp => ?_⟩
  · rw [← a.isComparison_map ps.value?, ← e, b.isComparison_map]
    exact hcomparison
  · rw [← a.columns_map ps.value?, ← e, b.columns_map]
    exact hcolumns
  · have hvalue : ps.value? p ∈ b.operands.map some := by
      rw [← Atom.operands_map, e, Atom.operands_map]
      exact List.mem_map_of_mem hp
    obtain ⟨v, -, hv⟩ := List.mem_map.1 hvalue
    exact hv ▸ rfl

theorem truth_of_bound {g : Restriction Placeholder} (hbound : g.map ps.value? = f.map some) :
    g.truth (rows.map (Row.truthOf ps)) (here.truthOf ps) =
      f.truth (rows.map Row.truth) here.truth := by
  have hsome : ∀ row : Row, (row.truth ∘ Atom.map (Option.getD · .null)) ∘ Atom.map some =
      row.truth := fun row => funext fun a => congrArg row.truth (a.map_getD_map_some .null)
  have h := congrArg (truth (rows.map fun row => row.truth ∘ Atom.map (Option.getD · .null))
    (here.truth ∘ Atom.map (Option.getD · .null))) hbound
  rw [truth_map, truth_map, List.map_map, List.map_map, hsome] at h
  have hrow : ((· ∘ Atom.map some) ∘ fun row : Row =>
      row.truth ∘ Atom.map (Option.getD · Datum.null)) = Row.truth := funext hsome
  rw [hrow] at h
  exact h

theorem readsIn (hf : f.Speaks filterColumns) (hrows : rows ≠ []) (here : Row) :
    f.ReadsIn rows here := by
  intro ps g hbound t
  have hread := reads_text hrows here g (isOfFilter_of_bound hf hbound)
  rw [truth_of_bound hbound] at hread
  constructor
  · exact fun h => h.unique hrows hread
  · rintro rfl
    exact hread

end Restriction

end PostSearch.Sql
