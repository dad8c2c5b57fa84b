import PostSearch.Proofs.Sql.Comparisons
import PostSearch.Proofs.Sql.Solid
import PostSearch.Proofs.Sql.Truth

/-! # Reading conditions

A text is read as a truth value in a row and a group of rows. What is read are constants, comparisons
of filters, and what `not`, `and`, `or` and `bool_or` make of texts that are read; operands of `and`
and `or` stand in parentheses.

Main statement: a text is read as one value only (`Reads.unique`). As every kind of text is told by
how it begins, it suffices to look at its parts; and where one part ends is seen from it, whatever
else follows (`Reads.isOnlyReading`). -/

namespace PostSearch.Sql

open Atom

/-! ### Reading texts -/

/-- Truth of a simple condition in the row, its placeholders standing for the bound values. -/
def Row.truthOf (ps : Params) (row : Row) (a : Atom Placeholder) : Truth :=
  row.truth ((a.map ps.value?).map (Option.getD · .null))

/-- How a text is read in a row `here` and among the rows of a group, its placeholders standing for
bound values. -/
inductive Reads (ps : Params) (rows : List Row) : Row → String → Truth → Prop
  | const {here} (b : Bool) : Reads ps rows here (constText b) (some b)
  | atom {here} {a : Atom Placeholder} (filter : a.IsOfFilter)
      (bound : ∀ p ∈ a.operands, (ps.value? p).isSome) :
      Reads ps rows here a.text (here.truthOf ps a)
  | not {here s t} (h : Reads ps rows here s t) (word : s.toList.contains ' ' = false) :
      Reads ps rows here ("not " ++ s) (Truth.negation t)
  | notGroup {here s t} (h : Reads ps rows here s t) :
      Reads ps rows here ("not (" ++ s ++ ")") (Truth.negation t)
  | group {here} (b : Bool) {parts : List (String × Truth)} (several : 2 ≤ parts.length)
      (h : ∀ p ∈ parts, Reads ps rows here p.1 p.2) :
      Reads ps rows here (grouped (joiner b) (parts.map Prod.fst))
        (Truth.joined b (parts.map Prod.snd))
  | someRow {here s} (truth : Row → Truth) (h : ∀ row ∈ rows, Reads ps rows row s (truth row)) :
      Reads ps rows here ("bool_or(" ++ s ++ ")") (Truth.someOf (rows.map truth))

variable {ps : Params} {rows : List Row} {here : Row} {s s' : String} {t t' : Truth}
  {u v : List Char} {a : Atom Placeholder}

theorem Atom.IsOfFilter.isSolid (h : a.IsOfFilter) : a.isSolid = true := by
  have hnames : ∀ w ∈ filterColumns, isNontrivial w = true := by decide +kernel
  obtain ⟨hcomparison, hcolumns⟩ := h
  cases a with
  | verbatim => nomatch hcomparison
  | flag column => exact hnames column (hcolumns List.mem_cons_self)
  | _ => rfl

/-- A text that is read depends on the row, or is one of the constants and means it. -/
theorem Reads.nontrivial_or_const (h : Reads ps rows here s t) :
    isNontrivial s = true ∨ ∃ b, s = constText b ∧ t = some b := by
  cases h with
  | const b => exact Or.inr ⟨b, rfl, rfl⟩
  | @atom _ a filter => exact Or.inl (a.isNontrivial_text filter.isSolid)
  | not => exact Or.inl (isNontrivial_not _)
  | notGroup => exact Or.inl (isNontrivial_notGroup _)
  | group => exact Or.inl (isNontrivial_grouped _ _)
  | someRow => exact Or.inl (isNontrivial_someRow _)

theorem Reads.eq_of_const {b : Bool} (h : Reads ps rows here (constText b) t) : t = some b := by
  rcases h.nontrivial_or_const with hn | ⟨c, hc, rfl⟩
  · rw [isNontrivial_constText] at hn
    cases hn
  · rw [constText_inj.1 hc]

theorem Reads.ne_empty (h : Reads ps rows here s t) : s ≠ "" := by
  rcases h.nontrivial_or_const with hn | ⟨b, rfl, -⟩
  · exact (isNontrivial_iff.1 hn).1
  · cases b <;> decide +kernel

/-! ### How texts begin -/

/-- A text is that of a comparison and begins with its column, or it begins as no column does. -/
theorem Reads.begins (h : Reads ps rows here s t) :
    (∃ a : Atom Placeholder, a.IsOfFilter ∧ a.lead = "" ∧ s = a.text) ∨
      ∃ c w, s.toList = c :: w ∧ c ∈ ['(', 'n', 'b', 't', 'f'] := by
  cases h with
  | const b => cases b <;> simp [constText]
  | @atom _ a filter =>
      rcases a.lead_cases with hlead | hlead | hlead
      · exact Or.inl ⟨a, filter, hlead, rfl⟩
      · simp [toList_text filter.isComparison, hlead]
      · simp [toList_text filter.isComparison, hlead]
  | not | notGroup | someRow => simp
  | group => simp [grouped_toList]

/-- No text goes on like an array comparison behind its column. -/
theorem Reads.ne_array (h : Reads ps rows here s t) {w : String} (hw : w ∈ filterColumns)
    (hu : EndsCondition u) : s.toList ++ u ≠ w.toList ++ (" && ".toList ++ v) := by
  intro e
  rcases h.begins with ⟨a, filter, hlead, rfl⟩ | ⟨c, x, hx, hc⟩
  · have hblank : EndsName (" && ".toList ++ v) := by simp [EndsName]
    rw [text_eq filter.isComparison, hlead, String.empty_append, String.toList_append,
      List.append_assoc] at e
    obtain ⟨-, htail⟩ := name_append_inj (filter.columns (subject_mem filter.isComparison)) hw
      (endsName_tail filter.isComparison hu) hblank e
    exact lead_ne_of_tail filter.isComparison hu htail hlead
  · obtain ⟨d, y, hd, hnot⟩ := exists_name hw
    rw [hx, hd] at e
    exact hnot ((List.cons.inj e).1 ▸ hc)

theorem Reads.ne_not_array (h : Reads ps rows here s t) {w : String} (hw : w ∈ filterColumns)
    (hu : EndsCondition u) :
    s.toList ++ u ≠ "not ".toList ++ (w.toList ++ (" && ".toList ++ v)) := by
  intro e
  cases h with
  | const b => cases b <;> simp [constText] at e
  | atom filter =>
      simp at e
      exact filter.text_ne (by decide) e
  | not h =>
      rw [String.toList_append, List.append_assoc] at e
      exact h.ne_array hw hu (List.append_cancel_left e)
  | notGroup =>
      obtain ⟨c, x, hx, hnot⟩ := exists_name hw
      simp [hx] at e
      simp [← e.1] at hnot
  | group => simp [grouped_toList] at e
  | someRow => simp at e

theorem Reads.hasBlank_of_opening (h : Reads ps rows here s t) {w : List Char}
    (e : s.toList = '(' :: w) : s.toList.contains ' ' = true := by
  cases h with
  | const b => cases b <;> simp [constText] at e
  | @atom _ a filter =>
      obtain ⟨c, x, hx, hnot⟩ := exists_name (filter.columns (subject_mem filter.isComparison))
      have hlead : a.lead ≠ "" := by
        intro hlead
        simp [toList_text filter.isComparison, hlead, hx] at e
        simp [e.1] at hnot
      obtain ⟨z, hz⟩ := exists_array hlead
      simp [toList_text filter.isComparison, hz]
  | not | notGroup | someRow => simp at e
  | @group _ b parts several h =>
      match parts, several with
      | p :: q :: rest, _ => simp [grouped, Text.joinWith]

/-- Parentheses behind `not` are those of a group: no single word begins with one. -/
theorem Reads.not_ne_notGroup (h : Reads ps rows here s t) (word : s.toList.contains ' ' = false) :
    ("not " ++ s).toList ++ u ≠ ("not (" ++ s' ++ ")").toList ++ v := by
  intro e
  obtain ⟨c, w, hw⟩ := List.exists_cons_of_ne_nil (mt String.toList_eq_nil_iff.1 h.ne_empty)
  simp [hw] at e
  rw [h.hasBlank_of_opening (e.1 ▸ hw)] at word
  cases word

/-! ### Groups -/

/-- What stands behind the first part in parentheses. -/
def restText (joins : Bool) : List String → List Char → List Char
  | [], u => ')' :: u
  | p :: parts, u => (" " ++ joiner joins ++ " ").toList ++ (p.toList ++ restText joins parts u)

theorem endsCondition_restText (joins : Bool) (parts : List String) (u : List Char) :
    EndsCondition (restText joins parts u) := by
  cases parts with
  | nil => exact .closing u
  | cons p parts => exact .joiner joins _

theorem grouped_append (joins : Bool) (p : String) (parts : List String) (u : List Char) :
    (grouped (joiner joins) (p :: parts)).toList ++ u =
      '(' :: (p.toList ++ restText joins parts u) := by
  rw [grouped_toList, List.cons_append, List.append_assoc, List.singleton_append]
  congr 1
  induction parts generalizing p with
  | nil => rfl
  | cons q parts ih =>
      rw [Text.joinWith, String.toList_append, String.toList_append, List.append_assoc,
        List.append_assoc, ih, restText]

theorem Reads.grouped_ne_atom {joins : Bool} {parts : List (String × Truth)}
    (several : 2 ≤ parts.length) (h : ∀ p ∈ parts, Reads ps rows here p.1 p.2) (ha : a.IsOfFilter) :
    (grouped (joiner joins) (parts.map Prod.fst)).toList ++ u ≠ a.text.toList ++ v := by
  obtain ⟨p, rest, rfl⟩ := List.exists_cons_of_length_pos (Nat.lt_of_succ_lt several)
  have hp := h p List.mem_cons_self
  have hsubject := ha.columns (subject_mem ha.isComparison)
  have hends := endsCondition_restText joins (rest.map Prod.fst) u
  rw [List.map_cons, grouped_append, toList_text ha.isComparison]
  intro e
  rcases a.lead_cases with hlead | hlead | hlead
  · obtain ⟨c, w, hw, hc⟩ := exists_name hsubject
    simp [hlead, hw] at e
    simp [← e.1] at hc
  · obtain ⟨z, hz⟩ := exists_array (a := a) (by simp [hlead])
    have hopen : "(".toList = ['('] := by decide_cbv
    rw [hlead, hz, hopen, List.append_assoc, List.append_assoc, List.append_assoc] at e
    exact hp.ne_array hsubject hends (List.cons.inj e).2
  · obtain ⟨z, hz⟩ := exists_array (a := a) (by simp [hlead])
    have hopen : "(not ".toList = '(' :: "not ".toList := by decide_cbv
    rw [hlead, hz, hopen, List.append_assoc, List.append_assoc, List.append_assoc] at e
    exact hp.ne_not_array hsubject hends (List.cons.inj e).2

/-! ### A text is read in one way -/

/-- The text is read as the value in one way: what is read in its place is the same text, whatever
stands behind the two. -/
def IsOnlyReading (ps : Params) (rows : List Row) (here : Row) (s : String) (t : Truth) : Prop :=
  ∀ ⦃s' t'⦄, Reads ps rows here s' t' → ∀ ⦃u v⦄, EndsCondition u → EndsCondition v →
    s.toList ++ u = s'.toList ++ v → s = s' ∧ t = t' ∧ u = v

theorem IsOnlyReading.eq (h' : IsOnlyReading ps rows here s' t') (h : Reads ps rows here s t)
    (hu : EndsCondition u) (hv : EndsCondition v) (e : s.toList ++ u = s'.toList ++ v) :
    s = s' ∧ t = t' ∧ u = v := by
  obtain ⟨hs, ht, huv⟩ := h' h hv hu e.symm
  exact ⟨hs.symm, ht.symm, huv.symm⟩

theorem isOnlyReading_const (b : Bool) : IsOnlyReading ps rows here (constText b) (some b) := by
  intro s' t' h u v hu hv e
  cases h with
  | const c => cases b <;> cases c <;> simp [constText] at e ⊢ <;> exact e
  | atom filter => cases b <;> exact absurd e.symm (filter.text_ne (by decide))
  | not | notGroup | someRow => cases b <;> simp [constText] at e
  | group => cases b <;> simp [constText, grouped_toList] at e

theorem isOnlyReading_atom (ha : a.IsOfFilter) (bound : ∀ p ∈ a.operands, (ps.value? p).isSome) :
    IsOnlyReading ps rows here a.text (here.truthOf ps a) := by
  intro s' t' h u v hu hv e
  cases h with
  | const b => cases b <;> exact absurd e (ha.text_ne (by decide))
  | @atom _ b hb hbound =>
      have hstem : OneStem a b := fun p hp q hq =>
        (Params.value?_isSome_iff.1 (bound p hp)).1.trans
          (Params.value?_isSome_iff.1 (hbound q hq)).1.symm
      obtain ⟨rfl, rfl⟩ := text_append_inj ha hb hstem hu hv e
      exact ⟨rfl, rfl, rfl⟩
  | not | notGroup | someRow =>
      simp at e
      exact absurd e (ha.text_ne (by decide))
  | group b several h => exact absurd e.symm (Reads.grouped_ne_atom several h ha)

theorem isOnlyReading_not (h : Reads ps rows here s t) (word : s.toList.contains ' ' = false)
    (ih : IsOnlyReading ps rows here s t) :
    IsOnlyReading ps rows here ("not " ++ s) (Truth.negation t) := by
  intro s' t' h' u v hu hv e
  cases h' with
  | const b => exact (isOnlyReading_const b).eq (.not h word) hu hv e
  | atom filter bound => exact (isOnlyReading_atom filter bound).eq (.not h word) hu hv e
  | not h' =>
      simp only [String.toList_append, List.append_assoc, List.append_cancel_left_eq] at e
      obtain ⟨rfl, rfl, rfl⟩ := ih h' hu hv e
      exact ⟨rfl, rfl, rfl⟩
  | notGroup h' => exact absurd e (h.not_ne_notGroup word)
  | group => simp [grouped_toList] at e
  | someRow => simp at e

theorem isOnlyReading_notGroup (h : Reads ps rows here s t) (ih : IsOnlyReading ps rows here s t) :
    IsOnlyReading ps rows here ("not (" ++ s ++ ")") (Truth.negation t) := by
  intro s' t' h' u v hu hv e
  cases h' with
  | const b => exact (isOnlyReading_const b).eq (.notGroup h) hu hv e
  | atom filter bound => exact (isOnlyReading_atom filter bound).eq (.notGroup h) hu hv e
  | not h' word => exact absurd e.symm (h'.not_ne_notGroup word)
  | notGroup h' =>
      simp only [String.toList_append, List.append_assoc, List.append_cancel_left_eq] at e
      obtain ⟨rfl, rfl, hend⟩ := ih h' (.closing _) (.closing _) e
      exact ⟨rfl, rfl, (List.cons.inj hend).2⟩
  | group => simp [grouped_toList] at e
  | someRow => simp at e

/-- Parts of a group are found one after the other, and so is the word that joins them. -/
theorem IsOnlyReading.restText {b c : Bool} : ∀ {parts parts' : List (String × Truth)},
    (∀ p ∈ parts, IsOnlyReading ps rows here p.1 p.2) → (∀ p ∈ parts', Reads ps rows here p.1 p.2) →
    ∀ {u v}, restText b (parts.map Prod.fst) u = restText c (parts'.map Prod.fst) v →
      parts = parts' ∧ u = v ∧ (parts ≠ [] → b = c)
  | [], [], _, _, u, v, e => ⟨rfl, (List.cons.inj e).2, fun h => absurd rfl h⟩
  | [], q :: _, _, _, u, v, e => by simp [Sql.restText] at e
  | p :: _, [], _, _, u, v, e => by simp [Sql.restText] at e
  | p :: parts, q :: parts', h, h', u, v, e => by
      obtain ⟨hp, hparts⟩ := List.forall_mem_cons.1 h
      obtain ⟨hq, hparts'⟩ := List.forall_mem_cons.1 h'
      obtain rfl : b = c := by
        revert e
        cases b <;> cases c <;> simp [Sql.restText, joiner]
      rw [List.map_cons, List.map_cons, Sql.restText, Sql.restText] at e
      obtain ⟨hs, ht, hrest⟩ := hp hq (endsCondition_restText _ _ _) (endsCondition_restText _ _ _)
        (List.append_cancel_left e)
      obtain ⟨rfl, rfl, -⟩ := restText hparts hparts' hrest
      exact ⟨congrArg (· :: parts) (Prod.ext hs ht), rfl, fun _ => rfl⟩

theorem isOnlyReading_group {b : Bool} {parts : List (String × Truth)} (several : 2 ≤ parts.length)
    (h : ∀ p ∈ parts, Reads ps rows here p.1 p.2)
    (ih : ∀ p ∈ parts, IsOnlyReading ps rows here p.1 p.2) :
    IsOnlyReading ps rows here (grouped (joiner b) (parts.map Prod.fst))
      (Truth.joined b (parts.map Prod.snd)) := by
  intro s' t' h' u v hu hv e
  cases h' with
  | const b => exact (isOnlyReading_const b).eq (.group _ several h) hu hv e
  | atom filter => exact absurd e (Reads.grouped_ne_atom several h filter)
  | @group _ c parts' several' h' =>
      obtain ⟨p, rest, rfl⟩ := List.exists_cons_of_length_pos (Nat.lt_of_succ_lt several)
      obtain ⟨q, rest', rfl⟩ := List.exists_cons_of_length_pos (Nat.lt_of_succ_lt several')
      obtain ⟨hp, hrest⟩ := List.forall_mem_cons.1 ih
      obtain ⟨hq, hrest'⟩ := List.forall_mem_cons.1 h'
      rw [List.map_cons, List.map_cons, grouped_append, grouped_append] at e
      obtain ⟨hs, ht, e⟩ := hp hq (endsCondition_restText _ _ _) (endsCondition_restText _ _ _)
        (List.cons.inj e).2
      obtain ⟨rfl, rfl, hjoins⟩ := IsOnlyReading.restText hrest hrest' e
      have hne : rest ≠ [] := by
        rintro rfl
        simp at several
      obtain rfl := hjoins hne
      obtain rfl : p = q := Prod.ext hs ht
      exact ⟨rfl, rfl, rfl⟩
  | not | notGroup | someRow => simp [grouped_toList] at e

theorem isOnlyReading_someRow (hrows : rows ≠ []) {truth : Row → Truth}
    (h : ∀ row ∈ rows, Reads ps rows row s (truth row))
    (ih : ∀ row ∈ rows, IsOnlyReading ps rows row s (truth row)) :
    IsOnlyReading ps rows here ("bool_or(" ++ s ++ ")") (Truth.someOf (rows.map truth)) := by
  intro s' t' h' u v hu hv e
  have hself : Reads ps rows here ("bool_or(" ++ s ++ ")") (Truth.someOf (rows.map truth)) :=
    .someRow truth h
  cases h' with
  | const b => exact (isOnlyReading_const b).eq hself hu hv e
  | atom filter bound => exact (isOnlyReading_atom filter bound).eq hself hu hv e
  | not | notGroup => simp at e
  | group => simp [grouped_toList] at e
  | @someRow _ s' truth' h' =>
      simp only [String.toList_append, List.append_assoc, List.append_cancel_left_eq] at e
      have hparts : ∀ row ∈ rows, s = s' ∧ truth row = truth' row ∧ ')' :: u = ')' :: v :=
        fun row hrow => ih row hrow (h' row hrow) (.closing u) (.closing v) e
      obtain ⟨row, hrow⟩ := List.exists_mem_of_ne_nil rows hrows
      obtain ⟨rfl, -, hend⟩ := hparts row hrow
      have htruth : rows.map truth = rows.map truth' :=
        List.map_congr_left fun row hrow => (hparts row hrow).2.1
      exact ⟨rfl, congrArg Truth.someOf htruth, (List.cons.inj hend).2⟩

theorem Reads.isOnlyReading (hrows : rows ≠ []) (h : Reads ps rows here s t) :
    IsOnlyReading ps rows here s t := by
  induction h with
  | const b => exact isOnlyReading_const b
  | atom filter bound => exact isOnlyReading_atom filter bound
  | not h word ih => exact isOnlyReading_not h word ih
  | notGroup h ih => exact isOnlyReading_notGroup h ih
  | group b several h ih => exact isOnlyReading_group several h ih
  | someRow truth h ih => exact isOnlyReading_someRow hrows h ih

/-- A text is read as one value only. -/
theorem Reads.unique (hrows : rows ≠ []) (h : Reads ps rows here s t)
    (h' : Reads ps rows here s t') : t = t' :=
  (h.isOnlyReading hrows h' .nil .nil rfl).2.1

end PostSearch.Sql
