import PostSearch.Proofs.Sql.Placeholders

/-! # Texts of text queries

The terms of a text query, with placeholders of one stem, are written so that a term and what
follows it can be told apart, and so are groups of them and sequences of groups: no such text is
the beginning of another one (`PrefixFree`). Parentheses are left out around a single part and put
around an excluded term, so it takes a look at what stands behind the first parenthesis. -/

namespace PostSearch.Sql

variable {P : TextQuery Placeholder → Prop} {stem : String} {joint : TextJoint}
  {q : TextQuery Placeholder}

/-! ### Kinds of text queries -/

/-- A term with placeholders of the stem. -/
def IsTerm (stem : String) (q : TextQuery Placeholder) : Prop :=
  ∃ config excluded mode value, q = .term config excluded mode value ∧ config.stem = stem ∧
    value.stem = stem

/-- One or more parts of a kind, joined. -/
def IsJoined (joint : TextJoint) (P : TextQuery Placeholder → Prop) (q : TextQuery Placeholder) :
    Prop :=
  ∃ first rest, q = .joined joint (first :: rest) ∧ ∀ p ∈ first :: rest, P p

def IsGroup (stem : String) : TextQuery Placeholder → Prop :=
  IsJoined .any (IsTerm stem)

def IsSequence (stem : String) : TextQuery Placeholder → Prop :=
  IsJoined .adjacent (IsGroup stem)

/-- Queries of a kind are told apart by their texts, whatever follows. -/
def PrefixFree (P : TextQuery Placeholder → Prop) : Prop :=
  ∀ ⦃q r⦄, P q → P r → ∀ ⦃s t : List Char⦄,
    q.text.toList ++ s = r.text.toList ++ t → q = r ∧ s = t

theorem PrefixFree.text_inj (h : PrefixFree P) {q r : TextQuery Placeholder} (hq : P q) (hr : P r)
    (htext : q.text = r.text) : q = r := by
  have hlist : q.text.toList ++ [] = r.text.toList ++ [] := by rw [htext]
  exact (h hq hr hlist).1

/-! ### Terms -/

def callText (mode : MatchMode) (config value : Placeholder) : List Char :=
  mode.reader.toList ++ ("(cast(".toList ++ (config.text.toList ++
    (" as regconfig), ".toList ++ (value.text.toList ++ [')']))))

theorem text_term (config : Placeholder) (excluded : Bool) (mode : MatchMode)
    (value : Placeholder) : (TextQuery.term config excluded mode value).text.toList =
      if excluded then '(' :: '!' :: '!' :: (callText mode config value ++ [')'])
      else callText mode config value := by
  cases excluded <;> simp [TextQuery.text, callText]

theorem callText_append_inj {mode mode' : MatchMode} {config config' value value' : Placeholder}
    (hconfig : config.stem = config'.stem) (hvalue : value.stem = value'.stem) {s t : List Char}
    (h : callText mode config value ++ s = callText mode' config' value' ++ t) :
    mode = mode' ∧ config = config' ∧ value = value' ∧ s = t := by
  -- The readers differ in their first two letters.
  have hmode : mode = mode' := by
    cases mode <;> cases mode' <;> first | rfl | simp [callText, MatchMode.reader] at h
  subst hmode
  simp only [callText, List.append_assoc, List.append_cancel_left_eq] at h
  have hblank : ∀ u : List Char, ∀ c ∈ (" as regconfig), ".toList ++ u).head?,
      c.isDigit = false := by
    intro u c hc
    simp at hc
    simp [← hc]
  have hclose : ∀ u : List Char, ∀ c ∈ ([')'] ++ u).head?, c.isDigit = false := by
    intro u c hc
    simp at hc
    simp [← hc]
  obtain ⟨rfl, hrest⟩ := Placeholder.text_append_inj hconfig (hblank _) (hblank _) h
  have hrest := List.append_cancel_left hrest
  obtain ⟨rfl, hend⟩ := Placeholder.text_append_inj hvalue (hclose s) (hclose t) hrest
  exact ⟨rfl, rfl, rfl, List.append_cancel_left hend⟩

/-- The text begins as terms do. -/
def Opens (s : List Char) : Prop :=
  ∃ c u, s = c :: u ∧ c ∈ ['p', 't', '(']

theorem exists_callText (mode : MatchMode) (config value : Placeholder) :
    ∃ c u, callText mode config value = c :: u ∧ c ∈ ['p', 't'] := by
  cases mode
  all_goals exact ⟨_, _, rfl, by decide⟩

theorem prefixFree_isTerm (stem : String) : PrefixFree (IsTerm stem) := by
  rintro q r ⟨c, e, m, v, rfl, hc, hv⟩ ⟨c', e', m', v', rfl, hc', hv'⟩ s t h
  have hcall : ∀ m c v m' c' v' (s t : List Char),
      callText m c v ++ s ≠ '(' :: '!' :: '!' :: (callText m' c' v' ++ [')']) ++ t := by
    intro m c v m' c' v' s t h
    obtain ⟨d, u, hd, hmem⟩ := exists_callText m c v
    rw [hd, List.cons_append] at h
    have hparen : d = '(' := (List.cons.inj h).1
    rw [hparen] at hmem
    revert hmem
    decide
  rw [text_term, text_term] at h
  cases e with
  | false =>
      cases e' with
      | false =>
          obtain ⟨rfl, rfl, rfl, rfl⟩ := callText_append_inj (hc.trans hc'.symm)
            (hv.trans hv'.symm) h
          exact ⟨rfl, rfl⟩
      | true => exact absurd h (hcall _ _ _ _ _ _ s t)
  | true =>
      cases e' with
      | false => exact absurd h.symm (hcall _ _ _ _ _ _ t s)
      | true =>
          simp only [if_true, List.cons_append, List.append_assoc, List.cons.injEq, true_and] at h
          obtain ⟨rfl, rfl, rfl, hend⟩ := callText_append_inj (hc.trans hc'.symm)
            (hv.trans hv'.symm) h
          exact ⟨rfl, (List.cons.inj hend).2⟩

/-- The parenthesis before a term is followed by an exclamation mark, so it is not the one before a
list of parts. -/
theorem IsTerm.ne_group (h : IsTerm stem q) {s u : List Char} (hu : Opens u) :
    q.text.toList ++ s ≠ '(' :: u := by
  obtain ⟨c, e, m, v, rfl, -, -⟩ := h
  obtain ⟨d, u, rfl, hd⟩ := hu
  intro h
  rw [text_term] at h
  cases e with
  | false =>
      obtain ⟨c', w, hcall, hmem⟩ := exists_callText m c v
      rw [if_neg Bool.false_ne_true, hcall] at h
      obtain rfl : c' = '(' := (List.cons.inj h).1
      revert hmem
      decide
  | true =>
      rw [if_pos rfl] at h
      obtain rfl : '!' = d := (List.cons.inj (List.cons.inj h).2).1
      revert hd
      decide

theorem IsTerm.opens (h : IsTerm stem q) (s : List Char) : Opens (q.text.toList ++ s) := by
  obtain ⟨c, e, m, v, rfl, -, -⟩ := h
  rw [text_term]
  cases e with
  | false =>
      obtain ⟨c', w, hcall, hmem⟩ := exists_callText m c v
      refine ⟨c', w ++ s, by simp [hcall], ?_⟩
      rcases List.mem_cons.1 hmem with rfl | hmem
      · decide
      · rw [List.mem_singleton.1 hmem]
        decide
  | true => exact ⟨'(', _, rfl, by decide⟩

/-! ### Joined parts -/

/-- What stands behind the first of several parts. -/
def behind (joint : TextJoint) : List (TextQuery Placeholder) → List Char → List Char
  | [], s => ')' :: s
  | q :: qs, s => (" " ++ joint.symbol ++ " ").toList ++ (q.text.toList ++ behind joint qs s)

theorem texts_map (qs : List (TextQuery Placeholder)) :
    TextQuery.texts qs = qs.map TextQuery.text := by
  induction qs with
  | nil => rfl
  | cons q qs ih => rw [TextQuery.texts, ih, List.map_cons]

theorem text_single (joint : TextJoint) (q : TextQuery Placeholder) :
    (TextQuery.joined joint [q]).text = q.text := rfl

theorem text_several (joint : TextJoint) (q r : TextQuery Placeholder)
    (rest : List (TextQuery Placeholder)) (s : List Char) :
    (TextQuery.joined joint (q :: r :: rest)).text.toList ++ s =
      '(' :: (q.text.toList ++ behind joint (r :: rest) s) := by
  have hjoin : ∀ (p : TextQuery Placeholder) (ps : List (TextQuery Placeholder)),
      (Text.joinWith (" " ++ joint.symbol ++ " ") ((p :: ps).map TextQuery.text)).toList ++
        ')' :: s = p.text.toList ++ behind joint ps s := by
    intro p ps
    induction ps generalizing p with
    | nil => rfl
    | cons p' ps ih =>
        have ih := ih p'
        rw [List.map_cons] at ih
        rw [List.map_cons, List.map_cons, Text.joinWith, String.toList_append,
          String.toList_append, List.append_assoc, List.append_assoc, ih, behind]
  have htext : (TextQuery.joined joint (q :: r :: rest)).text = "(" ++
      Text.joinWith (" " ++ joint.symbol ++ " ") ((q :: r :: rest).map TextQuery.text) ++ ")" := by
    rw [← texts_map]
    rfl
  rw [htext, ← hjoin]
  simp

/-- What stands behind is either another part or the end. -/
theorem behind_inj (hP : PrefixFree P) : ∀ {qs rs : List (TextQuery Placeholder)} {s t : List Char},
    (∀ q ∈ qs, P q) → (∀ r ∈ rs, P r) → behind joint qs s = behind joint rs t → qs = rs ∧ s = t
  | [], [], _, _, _, _, h => ⟨rfl, (List.cons.inj h).2⟩
  | [], _ :: _, _, _, _, _, h => by simp [behind] at h
  | _ :: _, [], _, _, _, _, h => by simp [behind] at h
  | q :: qs, r :: rs, s, t, hq, hr, h => by
      obtain ⟨hq, hqs⟩ := List.forall_mem_cons.1 hq
      obtain ⟨hr, hrs⟩ := List.forall_mem_cons.1 hr
      obtain ⟨rfl, hrest⟩ := hP hq hr (List.append_cancel_left h)
      obtain ⟨rfl, rfl⟩ := behind_inj hP hqs hrs hrest
      exact ⟨rfl, rfl⟩

/-- Joined parts are told apart if the parts are, and one part by itself from several. -/
theorem prefixFree_isJoined (hP : PrefixFree P)
    (happart : ∀ q r p, P q → P r → P p → ∀ ps s t,
      q.text.toList ++ s ≠ '(' :: (r.text.toList ++ behind joint (p :: ps) t)) :
    PrefixFree (IsJoined joint P) := by
  rintro q r ⟨a, as, rfl, hq⟩ ⟨b, bs, rfl, hr⟩ s t h
  obtain ⟨ha, has⟩ := List.forall_mem_cons.1 hq
  obtain ⟨hb, hbs⟩ := List.forall_mem_cons.1 hr
  cases as with
  | nil =>
      cases bs with
      | nil =>
          obtain ⟨rfl, rfl⟩ := hP ha hb h
          exact ⟨rfl, rfl⟩
      | cons b' bs =>
          rw [text_single, text_several] at h
          exact absurd h (happart a b b' ha hb (hbs b' List.mem_cons_self) bs s t)
  | cons a' as =>
      cases bs with
      | nil =>
          rw [text_single, text_several] at h
          exact absurd h.symm (happart b a a' hb ha (has a' List.mem_cons_self) as t s)
      | cons b' bs =>
          rw [text_several, text_several] at h
          obtain ⟨rfl, hbehind⟩ := hP ha hb (List.cons.inj h).2
          obtain ⟨hrest, rfl⟩ := behind_inj hP has hbs hbehind
          rw [hrest]
          exact ⟨rfl, rfl⟩

theorem prefixFree_isGroup (stem : String) : PrefixFree (IsGroup stem) := by
  apply prefixFree_isJoined (prefixFree_isTerm stem)
  intro q r p hq hr hp ps s t
  exact hq.ne_group (hr.opens _)

theorem IsGroup.opens (h : IsGroup stem q) (s : List Char) : Opens (q.text.toList ++ s) := by
  obtain ⟨a, as, rfl, hterms⟩ := h
  have ha := hterms a List.mem_cons_self
  cases as with
  | nil => exact ha.opens s
  | cons a' as =>
      rw [text_several]
      exact ⟨'(', _, rfl, by decide⟩

theorem prefixFree_isSequence (stem : String) : PrefixFree (IsSequence stem) := by
  apply prefixFree_isJoined (prefixFree_isGroup stem)
  intro q r p hq hr hp ps s t h
  obtain ⟨a, as, rfl, hterms⟩ := hq
  have ha := hterms a List.mem_cons_self
  cases as with
  | nil => exact ha.ne_group (hr.opens _) h
  | cons a' as =>
      -- Behind the parenthesis stand the first term of the group and the first group.
      rw [text_several] at h
      have hparts := (List.cons.inj h).2
      obtain ⟨b, bs, rfl, hterms'⟩ := hr
      have hb := hterms' b List.mem_cons_self
      cases bs with
      | nil =>
          obtain ⟨-, hbehind⟩ := prefixFree_isTerm stem ha hb hparts
          simp [behind, TextJoint.symbol] at hbehind
      | cons b' bs =>
          rw [text_several] at hparts
          exact ha.ne_group (hb.opens _) hparts

end PostSearch.Sql
