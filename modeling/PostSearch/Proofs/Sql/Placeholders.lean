import Mathlib.Data.List.TakeWhile
import PostSearch.Proofs.Sql.Binding
import PostSearch.Proofs.Sql.Lines
import PostSearch.Proofs.Text.Numeral

/-! # Placeholders in statements

Placeholders are read back from the text of a statement: wherever `:p_` and a digit stand, the
digits are read as far as they go.

Main statement: a placeholder that is read in a statement is one of its restrictions' or one of its
page's (`Statement.mem_placeholdersIn`). -/

namespace PostSearch.Sql

/-! ### Reading placeholders -/

/-- The number of the placeholder that the text begins with. -/
def placeholderAt? : List Char → Option Nat
  | ':' :: 'p' :: '_' :: s =>
    match s.takeWhile Char.isDigit with
    | [] => none
    | digits => some (Nat.ofDigitChars 10 digits 0)
  | _ => none

/-- The numbers of the placeholders in a text. -/
def placeholdersIn : List Char → List Nat
  | [] => []
  | c :: s => (placeholderAt? (c :: s)).toList ++ placeholdersIn s

theorem placeholderAt?_of_ne {c : Char} (h : c ≠ ':') (s : List Char) :
    placeholderAt? (c :: s) = none := by
  unfold placeholderAt?
  split
  · rename_i e
    cases e
    exact absurd rfl h
  · rfl

theorem placeholdersIn_eq_nil : ∀ {s : List Char}, ':' ∉ s → placeholdersIn s = []
  | [], _ => rfl
  | c :: s, h => by
      rw [List.mem_cons, not_or] at h
      rw [placeholdersIn, placeholderAt?_of_ne (Ne.symm h.1), placeholdersIn_eq_nil h.2]
      rfl

/-- Neither a placeholder nor a part of one. -/
def isOutside (d : Char) : Bool :=
  d != ':' && (d != 'p' && (d != '_' && !d.isDigit))

/-- The mark of a placeholder does not reach over a character outside. -/
theorem eq_mark_of_append {d : Char} (hd : isOutside d) {s t u : List Char}
    (h : s ++ d :: t = ':' :: 'p' :: '_' :: u) :
    ∃ s', s = ':' :: 'p' :: '_' :: s' ∧ u = s' ++ d :: t := by
  simp only [isOutside, Bool.and_eq_true, bne_iff_ne] at hd
  obtain ⟨hcolon, hp, hmark, -⟩ := hd
  rcases s with _ | ⟨c₁, _ | ⟨c₂, _ | ⟨c₃, s⟩⟩⟩
  · exact absurd (List.cons.inj h).1 hcolon
  · exact absurd (List.cons.inj (List.cons.inj h).2).1 hp
  · exact absurd (List.cons.inj (List.cons.inj (List.cons.inj h).2).2).1 hmark
  · cases h
    exact ⟨s, rfl, rfl⟩

theorem takeWhile_isDigit_append {d : Char} (hd : isOutside d) : ∀ s t : List Char,
    (s ++ d :: t).takeWhile Char.isDigit = s.takeWhile Char.isDigit
  | [], t => by
      simp only [isOutside, Bool.and_eq_true, Bool.not_eq_true'] at hd
      rw [List.nil_append, List.takeWhile_cons_of_neg (by simp [hd.2.2.2]), List.takeWhile_nil]
  | c :: s, t => by
      rw [List.cons_append, List.takeWhile_cons, List.takeWhile_cons,
        takeWhile_isDigit_append hd s t]

theorem placeholderAt?_append {d : Char} (hd : isOutside d) (s t : List Char) :
    placeholderAt? (s ++ d :: t) = placeholderAt? s := by
  rw [placeholderAt?.eq_def (s ++ d :: t)]
  split
  · rename_i u e
    obtain ⟨s', rfl, rfl⟩ := eq_mark_of_append hd e
    rw [takeWhile_isDigit_append hd]
    rfl
  · rename_i hne
    unfold placeholderAt?
    split
    · rename_i u
      exact absurd rfl (hne (u ++ d :: t))
    · rfl

theorem placeholdersIn_append {d : Char} (hd : isOutside d) : ∀ s t : List Char,
    placeholdersIn (s ++ d :: t) = placeholdersIn s ++ placeholdersIn t
  | [], t => by
      have h := placeholderAt?_append hd [] t
      rw [List.nil_append] at h
      show (placeholderAt? (d :: t)).toList ++ placeholdersIn t = _
      rw [h]
      rfl
  | c :: s, t => by
      have h := placeholderAt?_append hd (c :: s) t
      rw [List.cons_append] at h
      rw [List.cons_append, placeholdersIn, h, placeholdersIn_append hd s t, placeholdersIn,
        List.append_assoc]

theorem reading_placeholders : Reading placeholdersIn where
  append s d t hd := by
    refine placeholdersIn_append ?_ s t
    simp only [separators, List.mem_cons, List.not_mem_nil, or_false] at hd
    rcases hd with rfl | rfl | rfl <;> decide
  plain s hs := by
    apply placeholdersIn_eq_nil
    intro h
    have := List.all_eq_true.1 hs _ h
    simp at this

theorem Placeholder.toList_text (p : Placeholder) :
    p.text.toList = ':' :: (p.stem.toList ++ '_' :: Nat.toDigits 10 p.index) := by
  have e : p.text = ":" ++ (p.stem ++ "_" ++ p.index.repr) := rfl
  have hcolon : ":".toList = [':'] := by decide_cbv
  have hline : "_".toList = ['_'] := by decide_cbv
  rw [e, String.toList_append, String.toList_append, String.toList_append, Nat.toList_repr,
    hcolon, hline, List.append_assoc]
  rfl

/-- Placeholders of one stem are told apart by what they are written as, and end where no digit
follows. -/
theorem Placeholder.text_append_inj {p q : Placeholder} {s t : List Char} (hstem : p.stem = q.stem)
    (hs : ∀ c ∈ s.head?, c.isDigit = false) (ht : ∀ c ∈ t.head?, c.isDigit = false)
    (h : p.text.toList ++ s = q.text.toList ++ t) : p = q ∧ s = t := by
  rw [p.toList_text, q.toList_text, hstem, List.cons_append, List.cons_append, List.append_assoc,
    List.append_assoc] at h
  have hnumbers := List.append_cancel_left (List.cons.inj h).2
  obtain ⟨hindex, hrest⟩ := Numeral.toDigits_append_inj hs ht (List.cons.inj hnumbers).2
  obtain ⟨stem, index⟩ := p
  obtain ⟨stem', index'⟩ := q
  obtain rfl : stem = stem' := hstem
  obtain rfl : index = index' := hindex
  exact ⟨rfl, hrest⟩

theorem Placeholder.text_inj {p q : Placeholder} (hstem : p.stem = q.stem) (h : p.text = q.text) :
    p = q := by
  have hlist : p.text.toList ++ [] = q.text.toList ++ [] := by rw [h]
  exact (text_append_inj hstem (by simp) (by simp) hlist).1

theorem Placeholder.exists_text_digit (p : Placeholder) :
    ∃ s c, p.text.toList = s ++ [c] ∧ c.isDigit = true := by
  have hne : Nat.toDigits 10 p.index ≠ [] := Nat.toDigits_ne_nil
  obtain ⟨digits, c, hdigits⟩ := List.eq_nil_or_concat _ |>.resolve_left hne
  have hc : c ∈ Nat.toDigits 10 p.index := by simp [hdigits]
  have hdigit := Nat.isDigit_of_mem_toDigits (by decide) (by decide) hc
  exact ⟨':' :: (p.stem.toList ++ '_' :: digits), c, by simp [p.toList_text, hdigits], hdigit⟩

theorem text_toList {p : Placeholder} (h : p.stem = "p") :
    p.text.toList = ':' :: 'p' :: '_' :: Nat.toDigits 10 p.index := by
  have e : "p".toList = ['p'] := by decide_cbv
  rw [p.toList_text, h, e]
  rfl

theorem placeholdersIn_text {p : Placeholder} (h : p.stem = "p") :
    placeholdersIn p.text.toList = [p.index] := by
  have hdigits : ∀ c ∈ Nat.toDigits 10 p.index, c.isDigit = true := fun c hc =>
    Nat.isDigit_of_mem_toDigits (by decide) (by decide) hc
  have hcolon : ':' ∉ Nat.toDigits 10 p.index := fun h => by simpa using hdigits _ h
  have hat : placeholderAt? (':' :: 'p' :: '_' :: Nat.toDigits 10 p.index) = some p.index := by
    rw [placeholderAt?, List.takeWhile_eq_self_iff.2 hdigits]
    split
    · rename_i hnil
      exact absurd hnil Nat.toDigits_ne_nil
    · rw [Nat.ofDigitChars_ten_toDigits]
  rw [text_toList h, placeholdersIn, placeholdersIn_eq_nil (by simp [hcolon]), hat]
  rfl

/-! ### Placeholders of a statement -/

/-- There is no colon in the words. -/
def isMute (words : String) : Bool :=
  words.toList.all (· != ':')

theorem placeholdersIn_mute {words : String} (h : isMute words) :
    placeholdersIn words.toList = [] := by
  apply placeholdersIn_eq_nil
  intro hc
  simpa using List.all_eq_true.1 h _ hc

theorem isMute_append {s t : String} (hs : isMute s) (ht : isMute t) : isMute (s ++ t) := by
  rw [isMute, String.toList_append, List.all_append, Bool.and_eq_true]
  exact ⟨hs, ht⟩

theorem placeholdersIn_after {words : String} (h : isMute words) (hc : closesWord words.toList)
    (rest : String) : placeholdersIn (words ++ rest).toList = placeholdersIn rest.toList := by
  rw [String.toList_append, reading_placeholders.append_of_closes _ hc, placeholdersIn_mute h,
    List.nil_append]

theorem Selection.mem_placeholdersIn {s : Selection} {k : Nat} : ∀ l ∈ s.lines,
    k ∈ placeholdersIn l.toList → ∃ f ∈ s.restrictions, k ∈ placeholdersIn f.text.toList := by
  have hcolumn : isMute s.sort.column := by cases s.sort <;> decide_cbv
  have hmute : ∀ {l : String}, isMute l → k ∈ placeholdersIn l.toList →
      ∃ f ∈ s.restrictions, k ∈ placeholdersIn f.text.toList := by
    intro l hl hk
    rw [placeholdersIn_mute hl] at hk
    cases hk
  have hjoin : ∀ j ∈ s.joins, k ∈ placeholdersIn j.text.toList →
      ∃ f ∈ s.restrictions, k ∈ placeholdersIn f.text.toList := by
    intro j hj
    refine join_cases (P := fun l => k ∈ placeholdersIn l.toList →
      ∃ f ∈ s.restrictions, k ∈ placeholdersIn f.text.toList) (fun visible e hk => ?_)
      (hmute (by decide_cbv)) (hmute (by decide_cbv)) (hmute (by decide_cbv))
      (hmute (by decide_cbv))
    rw [placeholdersIn_after (by decide_cbv) (by decide_cbv)] at hk
    exact ⟨visible, mem_restrictions_of_join hj e, hk⟩
  simp only [lines, List.forall_mem_append, List.forall_mem_cons, List.forall_mem_map]
  refine ⟨⟨⟨?_, ?_, ?_, ?_⟩, hjoin⟩, ?_, ?_, ?_, ?_⟩
  · exact hmute (isMute_append (isMute_append (by decide_cbv) hcolumn) (by decide_cbv))
  · exact hmute (by decide_cbv)
  · exact hmute (by decide_cbv)
  · exact fun l hl => absurd hl List.not_mem_nil
  · intro hk
    rw [placeholdersIn_after (by decide_cbv) (by decide_cbv)] at hk
    exact ⟨s.rows, List.mem_cons_self, hk⟩
  · exact hmute (isMute_append (isMute_append (by decide_cbv) hcolumn) (by decide_cbv))
  · intro hk
    rw [placeholdersIn_after (by decide_cbv) (by decide_cbv)] at hk
    exact ⟨s.groups, List.mem_cons_of_mem _ List.mem_cons_self, hk⟩
  · exact fun l hl => absurd hl List.not_mem_nil

namespace Statement

variable {s : Statement} {k : Nat}

theorem mem_placeholdersIn_commonTable {l : String} (hl : l ∈ s.commonTable)
    (hk : k ∈ placeholdersIn l.toList) : k ∈ placeholdersIn s.feeds.text.toList := by
  unfold commonTable at hl
  split at hl
  · cases hl
  · obtain rfl := List.mem_singleton.1 hl
    rw [String.toList_append, reading_placeholders.trail _ (by decide_cbv),
      placeholdersIn_after (by decide_cbv) (by decide_cbv)] at hk
    exact hk

theorem placeholdersIn_page (s : Statement) : placeholdersIn s.page.toList =
    placeholdersIn s.limit.text.toList ++ placeholdersIn s.offset.text.toList := by
  have e : s.page = "order by date desc, id desc limit " ++ s.limit.text ++ " offset " ++
      s.offset.text := rfl
  rw [e, String.append_assoc, String.append_assoc,
    placeholdersIn_after (by decide_cbv) (by decide_cbv), String.toList_append,
    String.toList_append, reading_placeholders.gap _ (by decide_cbv)]

/-- A placeholder in a statement is one of its restrictions' or one of its page's. -/
theorem mem_placeholdersIn (h : s.Inline) (hs : s.selections ≠ [])
    (hk : k ∈ placeholdersIn s.text.toList) :
    (∃ f ∈ s.restrictions, k ∈ placeholdersIn f.text.toList) ∨
      k ∈ placeholdersIn s.limit.text.toList ∨ k ∈ placeholdersIn s.offset.text.toList := by
  have hnewline : ∀ s t, placeholdersIn (s ++ '\n' :: t) = placeholdersIn s ++ placeholdersIn t :=
    placeholdersIn_append (by decide)
  rw [read_lines hnewline, List.mem_flatMap] at hk
  obtain ⟨l, hl, hk⟩ := hk
  rw [lines_text h hs, List.mem_append, List.mem_append] at hl
  rcases hl with hl | hl | hl
  · exact Or.inl ⟨s.feeds, List.mem_cons_self, mem_placeholdersIn_commonTable hl hk⟩
  · rcases mem_intercalate hl with hl | ⟨m, hm, hl⟩
    · obtain rfl := List.mem_singleton.1 hl
      rw [placeholdersIn_mute (by decide_cbv)] at hk
      cases hk
    · obtain ⟨t, ht, rfl⟩ := List.mem_map.1 hm
      obtain ⟨f, hf, hk⟩ := t.mem_placeholdersIn l hl hk
      exact Or.inl ⟨f, List.mem_cons_of_mem _ (List.mem_flatMap.2 ⟨t, ht, hf⟩), hk⟩
  · obtain rfl := List.mem_singleton.1 hl
    rw [placeholdersIn_page, List.mem_append] at hk
    exact Or.inr hk

end Statement

end PostSearch.Sql
