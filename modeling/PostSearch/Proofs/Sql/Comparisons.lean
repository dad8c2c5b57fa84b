import PostSearch.Proofs.Clause.Columns
import PostSearch.Proofs.Sql.Junction
import PostSearch.Proofs.Sql.Placeholders

/-! # Texts of comparisons

The text of a comparison is a column with something behind it, perhaps in parentheses. Of the
columns and types that filters are made with, none begins like another one, save that `uuid[]`
begins with `uuid`; so what stands behind a column tells which comparison it is.

Main statement: comparisons of these columns with placeholders of one stem are told apart by their
texts, and it is seen where they end if they stand in a predicate (`Atom.text_append_inj`). -/

namespace PostSearch.Sql

open Clause

variable {s t : List Char} {p q : Placeholder} {a b : Atom Placeholder}

/-! ### Columns and types -/

/-- Columns and types that filters of feeds, attachments, likes and authors are made with. -/
def filterColumns : List String :=
  feedColumns ++ attachmentColumns "a" ++ ["cl.user_id", "c.user_id", "uuid[]"]

/-- No more of a column or type follows. -/
def EndsName (s : List Char) : Prop :=
  ∀ c ∈ s.head?, c ≠ '['

theorem name_append_inj {v w : String} (hv : v ∈ filterColumns) (hw : w ∈ filterColumns)
    (hs : EndsName s) (ht : EndsName t) (h : v.toList ++ s = w.toList ++ t) : v = w ∧ s = t := by
  have hbegin : ∀ v ∈ filterColumns, ∀ w ∈ filterColumns, v.toList <+: w.toList →
      v = w ∨ (w.toList.drop v.toList.length).head? = some '[' := by
    decide +kernel
  have hends : ∀ {v w : String} {s t z : List Char}, v ∈ filterColumns → w ∈ filterColumns →
      EndsName s → w.toList = v.toList ++ z → s = z ++ t → v = w ∧ s = t := by
    rintro v w s t z hv hw hs hz rfl
    rcases hbegin v hv w hw ⟨z, hz.symm⟩ with rfl | hbracket
    · rw [List.self_eq_append_right.1 hz]
      exact ⟨rfl, rfl⟩
    · rw [hz, List.drop_left] at hbracket
      exact absurd rfl (hs '[' (by rw [List.head?_append, hbracket]; rfl))
  rcases List.append_eq_append_iff.1 h with ⟨z, hz, hst⟩ | ⟨z, hz, hst⟩
  · exact hends hv hw hs hz hst
  · obtain ⟨rfl, rfl⟩ := hends hw hv ht hz hst
    exact ⟨rfl, rfl⟩

/-- A column begins neither with a parenthesis nor like negations, `bool_or` and constants. -/
theorem exists_name {w : String} (h : w ∈ filterColumns) :
    ∃ c u, w.toList = c :: u ∧ c ∉ ['(', 'n', 'b', 't', 'f'] := by
  have hbegin : ∀ w ∈ filterColumns, w.toList.head?.any (· ∉ ['(', 'n', 'b', 't', 'f']) = true := by
    decide +kernel
  obtain ⟨c, hc, hnot⟩ := (Option.any_eq_true _ _).1 (hbegin w h)
  obtain ⟨u, hu⟩ := List.head?_eq_some_iff.1 hc
  exact ⟨c, u, hu, of_decide_eq_true hnot⟩

/-! ### What stands behind a condition -/

/-- Nothing stands behind a condition, or the end of a group, or a word that joins. -/
inductive EndsCondition : List Char → Prop
  | nil : EndsCondition []
  | closing (s : List Char) : EndsCondition (')' :: s)
  | joiner (b : Bool) (s : List Char) : EndsCondition ((" " ++ joiner b ++ " ").toList ++ s)

theorem EndsCondition.endsName (h : EndsCondition s) : EndsName s := by
  cases h with
  | nil => nofun
  | closing s => simp [EndsName]
  | joiner b s => simp [EndsName]

theorem EndsCondition.not_isDigit (h : EndsCondition s) :
    ∀ c ∈ s.head?, c.isDigit = false := by
  cases h with
  | nil => nofun
  | closing s => simp
  | joiner b s => simp

/-! ### Comparisons -/

namespace Atom

/-- The placeholder of a value, read as the type if there is one. -/
def valueText (p : Placeholder) (type : Option String) : String :=
  type.elim p.text (castText p)

/-- What stands before the column of a comparison. -/
def lead : Atom Placeholder → String
  | .overlaps _ _ => "("
  | .disjoint _ _ => "(not "
  | _ => ""

/-- The column of a comparison. -/
def subject : Atom Placeholder → String
  | .flag column | .isNull column | .notNull column => column
  | .compare column _ _ _ | .between column _ _ => column
  | .oneOf column _ _ | .noneOf column _ _ | .overlaps column _ | .disjoint column _ => column
  | _ => ""

/-- What stands behind the column of a comparison. -/
def tail : Atom Placeholder → String
  | .isNull _ => " is null"
  | .notNull _ => " is not null"
  | .compare _ relation right type => " " ++ relation.symbol ++ " " ++ valueText right type
  | .between _ lower upper => " between " ++ lower.text ++ " and " ++ upper.text
  | .oneOf _ values type => " = any(" ++ castText values (type ++ "[]") ++ ")"
  | .noneOf _ values type => " <> all(" ++ castText values (type ++ "[]") ++ ")"
  | .overlaps _ values | .disjoint _ values => " && " ++ castText values "int[]" ++ ")"
  | _ => ""

theorem text_eq (h : a.isComparison) :
    a.text = a.lead ++ (a.subject ++ a.tail) := by
  cases a with
  | verbatim | matchesText | reaches | notBanned => nomatch h
  | flag column =>
      show column = _
      simp [lead, subject, tail]
  | isNull column =>
      show column ++ " is null" = _
      simp [lead, subject, tail]
  | notNull column =>
      show column ++ " is not null" = _
      simp [lead, subject, tail]
  | compare left relation right type =>
      show left ++ " " ++ relation.symbol ++ " " ++ valueText right type = _
      simp [lead, subject, tail, String.append_assoc]
  | between column lower upper =>
      show column ++ " between " ++ lower.text ++ " and " ++ upper.text = _
      simp [lead, subject, tail, String.append_assoc]
  | oneOf column values type =>
      show column ++ " = any(" ++ castText values (type ++ "[]") ++ ")" = _
      simp [lead, subject, tail, String.append_assoc]
  | noneOf column values type =>
      show column ++ " <> all(" ++ castText values (type ++ "[]") ++ ")" = _
      simp [lead, subject, tail, String.append_assoc]
  | overlaps column values =>
      show "(" ++ column ++ " && " ++ castText values "int[]" ++ ")" = _
      simp [lead, subject, tail, String.append_assoc]
  | disjoint column values =>
      show "(not " ++ column ++ " && " ++ castText values "int[]" ++ ")" = _
      simp [lead, subject, tail, String.append_assoc]

theorem toList_text (h : a.isComparison) :
    a.text.toList = a.lead.toList ++ (a.subject.toList ++ a.tail.toList) := by
  rw [text_eq h, String.toList_append, String.toList_append]

theorem toList_castText (p : Placeholder) (type : String) :
    (castText p type).toList =
      "cast(".toList ++ (p.text.toList ++ (" as ".toList ++ (type.toList ++ [')']))) := by
  simp [castText]

theorem castText_append_inj (hstem : p.stem = q.stem) {v w : String} (hv : v ∈ filterColumns)
    (hw : w ∈ filterColumns) (h : (castText p v).toList ++ s = (castText q w).toList ++ t) :
    p = q ∧ v = w ∧ s = t := by
  have hblank : ∀ u : List Char, ∀ c ∈ (" as ".toList ++ u).head?, c.isDigit = false := by
    intro u
    simp
  have hclose : ∀ u : List Char, EndsName ([')'] ++ u) := by
    intro u
    simp [EndsName]
  simp only [toList_castText, List.append_assoc, List.append_cancel_left_eq] at h
  obtain ⟨rfl, htype⟩ := Placeholder.text_append_inj hstem (hblank _) (hblank _) h
  obtain ⟨rfl, hend⟩ := name_append_inj hv hw (hclose s) (hclose t)
    (List.append_cancel_left htype)
  exact ⟨rfl, rfl, List.append_cancel_left hend⟩

theorem exists_valueText (p : Placeholder) (type : Option String) :
    ∃ c u, (valueText p type).toList = c :: u ∧ c ∈ [':', 'c'] := by
  cases type with
  | none => exact ⟨':', _, p.toList_text, by decide⟩
  | some type => exact ⟨'c', _, toList_castText p type, by decide⟩

theorem valueText_append_inj (hstem : p.stem = q.stem) {v w : Option String}
    (hv : v.toList ⊆ filterColumns) (hw : w.toList ⊆ filterColumns) (hs : EndsCondition s)
    (ht : EndsCondition t) (h : (valueText p v).toList ++ s = (valueText q w).toList ++ t) :
    p = q ∧ v = w ∧ s = t := by
  cases v with
  | none =>
      cases w with
      | none =>
          obtain ⟨rfl, rfl⟩ := Placeholder.text_append_inj hstem hs.not_isDigit ht.not_isDigit h
          exact ⟨rfl, rfl, rfl⟩
      | some w => simp [valueText, toList_castText, p.toList_text] at h
  | some v =>
      cases w with
      | none => simp [valueText, toList_castText, q.toList_text] at h
      | some w =>
          obtain ⟨rfl, rfl, rfl⟩ := castText_append_inj hstem (hv (by simp)) (hw (by simp)) h
          exact ⟨rfl, rfl, rfl⟩

/-! ### What stands behind a column -/

/-- An operator with a value behind it stands in no other kind of comparison. -/
theorem exists_compare_of_tail {left : String} {relation : Relation} {type : Option String}
    (hb : b.isComparison) (ht : EndsCondition t)
    (h : (compare left relation p type).tail.toList ++ s = b.tail.toList ++ t) :
    ∃ left' right' type', b = .compare left' relation right' type' := by
  obtain ⟨c, u, hc, hmem⟩ := exists_valueText p type
  have htail : (compare left relation p type).tail.toList ++ s =
      ' ' :: (relation.symbol.toList ++ ' ' :: c :: (u ++ s)) := by
    rw [tail]
    simp [hc]
  rw [htail] at h
  cases b with
  | verbatim | matchesText | reaches | notBanned => nomatch hb
  | compare left' relation' right' type' =>
      refine ⟨left', right', type', ?_⟩
      cases relation <;> cases relation' <;> simp [tail, Relation.symbol] at h ⊢
  | flag =>
      cases ht with
      | nil | closing => simp [tail] at h
      | joiner joins => cases relation <;> cases joins <;> simp [tail, Relation.symbol, joiner] at h
  -- Only `= any(` begins like an operator with a value, and no value begins with `a`.
  | _ => cases relation <;> simp [tail, Relation.symbol] at h <;> simp [h.1] at hmem

/-- Where a condition ends, nothing but a flag can have gone on. -/
theorem exists_flag_of_tail (hb : b.isComparison) (hs : EndsCondition s)
    (h : s = b.tail.toList ++ t) : ∃ column, b = .flag column := by
  cases b with
  | verbatim | matchesText | reaches | notBanned => nomatch hb
  | flag column => exact ⟨column, rfl⟩
  | compare left =>
      have hflag : (flag left : Atom Placeholder).isComparison := rfl
      obtain ⟨_, _, _, hcompare⟩ := exists_compare_of_tail hflag hs h.symm
      cases hcompare
  | _ =>
      cases hs with
      | nil | closing => simp [tail] at h
      | joiner joins => cases joins <;> simp [tail, joiner] at h

theorem castText_closed_inj (hstem : p.stem = q.stem) {v w : String} (hv : v ∈ filterColumns)
    (hw : w ∈ filterColumns)
    (h : (castText p v).toList ++ ')' :: s = (castText q w).toList ++ ')' :: t) :
    p = q ∧ v = w ∧ s = t := by
  obtain ⟨rfl, rfl, hend⟩ := castText_append_inj hstem hv hw h
  exact ⟨rfl, rfl, (List.cons.inj hend).2⟩

/-- The comparison is one of filters. -/
structure IsOfFilter (a : Atom Placeholder) : Prop where
  isComparison : a.isComparison
  columns : a.columns ⊆ filterColumns

/-- Placeholders of both have one stem. -/
def OneStem (a b : Atom Placeholder) : Prop :=
  ∀ p ∈ a.operands, ∀ q ∈ b.operands, p.stem = q.stem

theorem OneStem.symm (h : OneStem a b) : OneStem b a :=
  fun p hp q hq => (h q hq p hp).symm

theorem eq_of_tail_compare {left : String} {relation : Relation} {type : Option String}
    (ha : IsOfFilter (.compare left relation p type)) (hb : IsOfFilter b)
    (hstem : OneStem (.compare left relation p type) b) (hs : EndsCondition s)
    (ht : EndsCondition t) (hsubject : left = b.subject)
    (h : (compare left relation p type).tail.toList ++ s = b.tail.toList ++ t) :
    compare left relation p type = b ∧ s = t := by
  obtain ⟨left', q, type', rfl⟩ := exists_compare_of_tail hb.isComparison ht h
  simp only [tail, String.toList_append, List.append_assoc, List.append_cancel_left_eq] at h
  obtain ⟨rfl, rfl, rfl⟩ := valueText_append_inj
    (hstem p List.mem_cons_self q List.mem_cons_self) (List.subset_of_cons_subset ha.columns)
    (List.subset_of_cons_subset hb.columns) hs ht h
  exact ⟨congrArg (compare · relation p type) hsubject, rfl⟩

theorem eq_of_tail_between {column column' : String} {upper upper' : Placeholder}
    (hstem : OneStem (.between column p upper) (.between column' q upper')) (hs : EndsCondition s)
    (ht : EndsCondition t) (h : p.text.toList ++ (" and ".toList ++ (upper.text.toList ++ s)) =
      q.text.toList ++ (" and ".toList ++ (upper'.text.toList ++ t))) :
    p = q ∧ upper = upper' ∧ s = t := by
  have hword : ∀ u : List Char, ∀ d ∈ (" and ".toList ++ u).head?, d.isDigit = false := by
    intro u
    simp
  obtain ⟨rfl, hrest⟩ := Placeholder.text_append_inj
    (hstem p List.mem_cons_self q List.mem_cons_self) (hword _) (hword _) h
  obtain ⟨rfl, rfl⟩ := Placeholder.text_append_inj
    (hstem upper (List.mem_cons_of_mem _ List.mem_cons_self) upper'
      (List.mem_cons_of_mem _ List.mem_cons_self))
    hs.not_isDigit ht.not_isDigit (List.append_cancel_left hrest)
  exact ⟨rfl, rfl, rfl⟩

/-- What stands behind the column tells which comparison it is. -/
theorem eq_of_tail (ha : IsOfFilter a) (hb : IsOfFilter b) (hstem : OneStem a b)
    (hs : EndsCondition s) (ht : EndsCondition t) (hlead : a.lead = b.lead)
    (hsubject : a.subject = b.subject) (h : a.tail.toList ++ s = b.tail.toList ++ t) :
    a = b ∧ s = t := by
  by_cases hflag : (∃ column, a = .flag column) ∨ ∃ column, b = .flag column
  · obtain ⟨c, d, rfl, rfl⟩ : ∃ c d, a = .flag c ∧ b = .flag d := by
      obtain ⟨c, rfl⟩ | ⟨d, rfl⟩ := hflag
      · exact ⟨c, (exists_flag_of_tail hb.isComparison hs h).imp fun _ hd => ⟨rfl, hd⟩⟩
      · exact (exists_flag_of_tail ha.isComparison ht h.symm).imp fun _ hc => ⟨d, hc, rfl⟩
    exact ⟨congrArg flag hsubject, h⟩
  by_cases hcompare : (∃ l r v ty, a = .compare l r v ty) ∨ ∃ l r v ty, b = .compare l r v ty
  · obtain ⟨_, _, _, _, rfl⟩ | ⟨_, _, _, _, rfl⟩ := hcompare
    · exact eq_of_tail_compare ha hb hstem hs ht hsubject h
    · obtain ⟨hab, hst⟩ := eq_of_tail_compare hb ha hstem.symm ht hs hsubject.symm h.symm
      exact ⟨hab.symm, hst.symm⟩
  obtain ⟨hca, hsa⟩ := ha
  obtain ⟨hcb, hsb⟩ := hb
  -- Two other kinds differ in the words behind the column, or in what stands before it.
  cases a <;> cases b <;>
    simp [tail, isComparison, lead, subject] at hca hcb h hlead hsubject hflag hcompare
  case isNull | notNull => exact ⟨hsubject ▸ rfl, h⟩
  case between =>
    obtain ⟨rfl, rfl, rfl⟩ := eq_of_tail_between hstem hs ht h
    exact ⟨hsubject ▸ rfl, rfl⟩
  case oneOf | noneOf =>
    obtain ⟨rfl, htype, rfl⟩ := castText_closed_inj (hstem _ List.mem_cons_self _ List.mem_cons_self)
      (hsa (List.mem_cons_of_mem _ List.mem_cons_self))
      (hsb (List.mem_cons_of_mem _ List.mem_cons_self)) h
    obtain rfl := (String.append_left_inj _).1 htype
    exact ⟨hsubject ▸ rfl, rfl⟩
  case overlaps | disjoint =>
    obtain ⟨rfl, -, rfl⟩ := castText_closed_inj (hstem _ List.mem_cons_self _ List.mem_cons_self)
      (hsa (List.mem_cons_of_mem _ List.mem_cons_self))
      (hsb (List.mem_cons_of_mem _ List.mem_cons_self)) h
    exact ⟨hsubject ▸ rfl, rfl⟩

/-! ### Texts of comparisons -/

theorem subject_mem (h : a.isComparison) : a.subject ∈ a.columns := by
  cases a with
  | verbatim | matchesText | reaches | notBanned => nomatch h
  | _ => exact List.mem_cons_self

theorem lead_cases (a : Atom Placeholder) : a.lead = "" ∨ a.lead = "(" ∨ a.lead = "(not " := by
  cases a <;> simp [lead]

theorem lead_eq (ha : IsOfFilter a) (hb : IsOfFilter b)
    (h : a.text.toList ++ s = b.text.toList ++ t) : a.lead = b.lead := by
  obtain ⟨c, u, hc, hnc⟩ := exists_name (ha.columns (subject_mem ha.isComparison))
  obtain ⟨d, v, hd, hnd⟩ := exists_name (hb.columns (subject_mem hb.isComparison))
  rw [toList_text ha.isComparison, toList_text hb.isComparison, hc, hd] at h
  rcases a.lead_cases with ha | ha | ha <;> rcases b.lead_cases with hb | hb | hb <;>
    rw [ha, hb] at h ⊢ <;> simp at h <;> grind

theorem exists_array (h : a.lead ≠ "") : ∃ u, a.tail.toList = " && ".toList ++ u := by
  cases a with
  | overlaps | disjoint => exact ⟨_, by rw [tail, String.append_assoc, String.toList_append]⟩
  | _ => exact absurd rfl h

theorem lead_ne_of_tail (ha : a.isComparison) (hs : EndsCondition s)
    (h : a.tail.toList ++ s = " && ".toList ++ t) : a.lead ≠ "" := by
  cases a with
  | verbatim | matchesText | reaches | notBanned => nomatch ha
  | flag =>
      cases hs with
      | nil | closing => simp [tail] at h
      | joiner joins => cases joins <;> simp [tail, joiner] at h
  | compare left relation => cases relation <;> simp [tail, Relation.symbol] at h
  | overlaps | disjoint => simp [lead]
  | _ => simp [tail] at h

theorem endsName_tail (ha : a.isComparison) (hs : EndsCondition s) :
    EndsName (a.tail.toList ++ s) := by
  cases a with
  | verbatim | matchesText | reaches | notBanned => nomatch ha
  | flag => exact hs.endsName
  | _ => simp [EndsName, tail]

/-- A comparison begins with a column or a parenthesis. -/
theorem IsOfFilter.begins (h : a.IsOfFilter) :
    ∃ c u, a.text.toList = c :: u ∧ c ∉ ['n', 'b', 't', 'f'] := by
  obtain ⟨c, u, hu, hc⟩ := exists_name (h.columns (subject_mem h.isComparison))
  rw [toList_text h.isComparison, hu]
  rcases a.lead_cases with e | e | e <;> rw [e]
  · exact ⟨c, _, rfl, fun hmem => hc (List.mem_cons_of_mem _ hmem)⟩
  · exact ⟨'(', _, rfl, by decide⟩
  · exact ⟨'(', _, rfl, by decide⟩

/-- No comparison is taken for a negation, a call of `bool_or` or a constant. -/
theorem IsOfFilter.text_ne (h : a.IsOfFilter) {c : Char} (hc : c ∈ ['n', 'b', 't', 'f']) :
    a.text.toList ++ s ≠ c :: t := by
  obtain ⟨d, u, hu, hd⟩ := h.begins
  rw [hu, List.cons_append]
  rintro ⟨⟩
  exact hd hc

/-- Comparisons of filters are told apart by their texts, and it is seen where they end. -/
theorem text_append_inj (ha : IsOfFilter a) (hb : IsOfFilter b) (hstem : OneStem a b)
    (hs : EndsCondition s) (ht : EndsCondition t) (h : a.text.toList ++ s = b.text.toList ++ t) :
    a = b ∧ s = t := by
  have hlead := lead_eq ha hb h
  rw [toList_text ha.isComparison, toList_text hb.isComparison, hlead] at h
  simp only [List.append_assoc, List.append_cancel_left_eq] at h
  obtain ⟨hsubject, htail⟩ := name_append_inj (ha.columns (subject_mem ha.isComparison))
    (hb.columns (subject_mem hb.isComparison)) (endsName_tail ha.isComparison hs)
    (endsName_tail hb.isComparison ht) h
  exact eq_of_tail ha hb hstem hs ht hlead hsubject htail

end Atom

end PostSearch.Sql
