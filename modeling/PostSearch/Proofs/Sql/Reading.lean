import Mathlib.Tactic.SplitIfs
import PostSearch.Proofs.Sql.Junction
import PostSearch.Proofs.Sql.Operands

/-! # Reading texts word by word

What is read off a text for a proof, such as the placeholders in it, the tables before a dot or the
line breaks, is read off its words one after the other: blanks and parentheses separate words, and a
word without a colon, a dot or a line break yields nothing. `Reading` states these two facts.

Main statement: whatever a reading finds in the text of a restriction, it finds in a column, a
phrase or a placeholder of it (`Reading.mem_text`). -/

namespace PostSearch.Sql

/-- Characters that separate words. -/
def separators : List Char := [' ', '(', ')']

/-- A text in which no reading finds anything. -/
def isPlain (s : List Char) : Bool :=
  s.all fun c => c != ':' && c != '.' && c != '\n'

/-- What comes before the text is read by itself. -/
def opensWord (s : List Char) : Bool :=
  separators.contains (s.headD 'x')

/-- What comes behind the text is read by itself. -/
def closesWord (s : List Char) : Bool :=
  separators.contains (s.getLastD 'x')

/-- Fixed words that stand before others. -/
def isLead (w : String) : Bool :=
  isPlain w.toList && closesWord w.toList

/-- Fixed words that stand behind others. -/
def isTrail (w : String) : Bool :=
  isPlain w.toList && opensWord w.toList

/-- Fixed words that stand between others. -/
def isGap (w : String) : Bool :=
  isPlain w.toList && (opensWord w.toList && closesWord w.toList)

/-- The function reads a text word by word and finds nothing in plain words. -/
structure Reading {β : Type} (read : List Char → List β) : Prop where
  append : ∀ s d t, d ∈ separators → read (s ++ d :: t) = read s ++ read t
  plain : ∀ s, isPlain s → read s = []

namespace Reading

variable {β : Type} {read : List Char → List β} (hr : Reading read)

include hr

/-! ### Words side by side -/

theorem nil : read [] = [] :=
  hr.plain [] rfl

theorem append_of_opens (s : List Char) {t : List Char} (h : opensWord t) :
    read (s ++ t) = read s ++ read t := by
  cases t with
  | nil => simp [hr.nil]
  | cons d t =>
      have hd : d ∈ separators := by simpa [opensWord] using h
      have ht : read (d :: t) = read t := by
        rw [← List.nil_append (d :: t), hr.append [] d t hd, hr.nil, List.nil_append]
      rw [hr.append s d t hd, ht]

theorem append_of_closes {s : List Char} (t : List Char) (h : closesWord s) :
    read (s ++ t) = read s ++ read t := by
  rcases List.eq_nil_or_concat s with rfl | ⟨u, d, rfl⟩
  · simp [hr.nil]
  · have hd : d ∈ separators := by simpa [closesWord] using h
    have hu : read (u.concat d) = read u := by
      rw [List.concat_eq_append, hr.append u d [] hd, hr.nil, List.append_nil]
    rw [hu, List.concat_eq_append, List.append_assoc, List.singleton_append, hr.append u d t hd]

theorem lead {w : String} (h : isLead w) (t : List Char) : read (w.toList ++ t) = read t := by
  obtain ⟨hp, hc⟩ := Bool.and_eq_true_iff.1 h
  rw [hr.append_of_closes t hc, hr.plain _ hp, List.nil_append]

theorem trail (s : List Char) {w : String} (h : isTrail w) : read (s ++ w.toList) = read s := by
  obtain ⟨hp, ho⟩ := Bool.and_eq_true_iff.1 h
  rw [hr.append_of_opens s ho, hr.plain _ hp, List.append_nil]

theorem between (s : List Char) {w : String} (ho : opensWord w.toList) (hc : closesWord w.toList)
    (t : List Char) : read (s ++ (w.toList ++ t)) = read s ++ (read w.toList ++ read t) := by
  have ho' : opensWord (w.toList ++ t) := by
    cases hw : w.toList with
    | nil => simp [hw, opensWord, separators] at ho
    | cons d u => simpa [hw, opensWord] using ho
  rw [hr.append_of_opens s ho', hr.append_of_closes t hc]

theorem gap (s : List Char) {w : String} (h : isGap w) (t : List Char) :
    read (s ++ (w.toList ++ t)) = read s ++ read t := by
  obtain ⟨hp, h⟩ := Bool.and_eq_true_iff.1 h
  obtain ⟨ho, hc⟩ := Bool.and_eq_true_iff.1 h
  rw [hr.between s ho hc, hr.plain _ hp, List.nil_append]

/-! ### Joined texts -/

theorem mem_joinWith {joiner : String} (hj : isPlain joiner.toList) {x : β} :
    ∀ {ps : List String}, x ∈ read (Text.joinWith (" " ++ joiner ++ " ") ps).toList →
      ∃ p ∈ ps, x ∈ read p.toList
  | [], h => by
      rw [show (Text.joinWith (" " ++ joiner ++ " ") []).toList = [] from rfl,
        hr.plain [] rfl] at h
      cases h
  | [s], h => ⟨s, List.mem_singleton_self s, h⟩
  | s :: t :: rest, h => by
      have e : (Text.joinWith (" " ++ joiner ++ " ") (s :: t :: rest)).toList =
          s.toList ++ ' ' :: (joiner.toList ++ ' ' ::
            (Text.joinWith (" " ++ joiner ++ " ") (t :: rest)).toList) := by
        simp [Text.joinWith]
      have hsep : ' ' ∈ separators := by simp [separators]
      rw [e, hr.append _ _ _ hsep, hr.append _ _ _ hsep, hr.plain _ hj, List.nil_append,
        List.mem_append] at h
      rcases h with h | h
      · exact ⟨s, List.mem_cons_self, h⟩
      · obtain ⟨p, hp, hx⟩ := mem_joinWith hj h
        exact ⟨p, List.mem_cons_of_mem _ hp, hx⟩

theorem parenthesized (s : List Char) : read ('(' :: (s ++ [')'])) = read s := by
  have h₁ : read (s ++ [')']) = read s := by
    rw [hr.append_of_opens s (by decide), hr.plain [')'] (by decide), List.append_nil]
  rw [← List.singleton_append, hr.append_of_closes _ (by decide), hr.plain ['('] (by decide),
    List.nil_append, h₁]

theorem mem_grouped {joiner : String} (hj : isPlain joiner.toList) {ps : List String} {x : β}
    (h : x ∈ read (grouped joiner ps).toList) : ∃ p ∈ ps, x ∈ read p.toList := by
  rw [grouped_toList, hr.parenthesized] at h
  exact hr.mem_joinWith hj h

theorem mem_joinParts {absorbing identity joiner : String} (ha : isPlain absorbing.toList)
    (hi : isPlain identity.toList) (hj : isPlain joiner.toList) {parts : List String} {x : β}
    (h : x ∈ read (joinParts absorbing identity joiner parts).toList) :
    ∃ p ∈ parts, x ∈ read p.toList := by
  refine joinParts_induction (P := fun s => x ∈ read s.toList → ∃ p ∈ parts, x ∈ read p.toList)
    ?_ ?_ ?_ (fun p hp hx => ⟨p, hp, hx⟩) h
  · rw [hr.plain _ ha]
    exact fun hx => absurd hx List.not_mem_nil
  · rw [hr.plain _ hi]
    exact fun hx => absurd hx List.not_mem_nil
  · intro ps hps hx
    obtain ⟨p, hp, hx⟩ := hr.mem_grouped hj hx
    exact hps p hp hx

theorem mem_conjoin {parts : List String} {x : β} (h : x ∈ read (conjoin parts).toList) :
    ∃ p ∈ parts, x ∈ read p.toList :=
  hr.mem_joinParts (by decide_cbv) (by decide_cbv) (by decide_cbv) h

theorem mem_disjoin {parts : List String} {x : β} (h : x ∈ read (disjoin parts).toList) :
    ∃ p ∈ parts, x ∈ read p.toList :=
  hr.mem_joinParts (by decide_cbv) (by decide_cbv) (by decide_cbv) h

theorem mem_negate {s : String} {x : β} (h : x ∈ read (negate s).toList) : x ∈ read s.toList := by
  unfold negate at h
  split_ifs at h
  · rw [hr.plain _ (by decide_cbv)] at h
    cases h
  · rw [hr.plain _ (by decide_cbv)] at h
    cases h
  · rwa [String.toList_append, hr.trail _ (by decide_cbv), String.toList_append,
      hr.lead (by decide_cbv)] at h
  · rwa [String.toList_append, hr.lead (by decide_cbv)] at h

/-! ### Text queries -/

theorem mem_joinedText {joint : TextJoint} {parts : List String} {x : β}
    (h : x ∈ read (TextQuery.joinedText joint parts).toList) : ∃ p ∈ parts, x ∈ read p.toList := by
  unfold TextQuery.joinedText at h
  split at h
  · exact ⟨_, List.mem_singleton_self _, h⟩
  · have hj : isPlain joint.symbol.toList := by cases joint <;> decide_cbv
    exact hr.mem_grouped hj h

theorem read_call (mode : MatchMode) (config value : Placeholder) :
    read (mode.reader ++ "(cast(" ++ config.text ++ " as regconfig), " ++ value.text ++
      ")").toList = read config.text.toList ++ read value.text.toList := by
  have hlead : isLead (mode.reader ++ "(cast(") := by cases mode <;> decide_cbv
  rw [String.toList_append, hr.trail _ (by decide_cbv), String.toList_append,
    String.toList_append, String.toList_append, List.append_assoc, List.append_assoc,
    hr.lead hlead, hr.gap _ (by decide_cbv)]

theorem read_term (config value : Placeholder) (excluded : Bool) (mode : MatchMode) :
    read (TextQuery.term config excluded mode value).text.toList =
      read config.text.toList ++ read value.text.toList := by
  rw [TextQuery.text]
  cases excluded with
  | false => exact hr.read_call mode config value
  | true =>
      -- the mark of exclusion and the reader make one word
      have hlead : isLead ("(!!" ++ (mode.reader ++ "(cast(")) := by cases mode <;> decide_cbv
      have e : ("(!!" ++ (mode.reader ++ "(cast(" ++ config.text ++ " as regconfig), " ++
          value.text ++ ")")) = "(!!" ++ (mode.reader ++ "(cast(") ++ (config.text ++
            (" as regconfig), " ++ (value.text ++ ")"))) := by
        simp only [String.append_assoc]
      rw [if_pos rfl, String.toList_append, hr.trail _ (by decide_cbv), e, String.toList_append,
        hr.lead hlead, String.toList_append, String.toList_append, hr.gap _ (by decide_cbv),
        String.toList_append, hr.trail _ (by decide_cbv)]

/-! ### Atoms -/

theorem read_castText (p : Placeholder) (type : String) :
    read (Atom.castText p type).toList = read p.text.toList ++ read type.toList := by
  rw [Atom.castText, String.toList_append, hr.trail _ (by decide_cbv), String.toList_append,
    String.toList_append, String.toList_append, List.append_assoc, List.append_assoc,
    hr.lead (by decide_cbv), hr.gap _ (by decide_cbv)]

theorem read_isNull (column : String) :
    read (Atom.isNull column : Atom Placeholder).text.toList = read column.toList := by
  have e : (Atom.isNull column : Atom Placeholder).text = column ++ " is null" := rfl
  rw [e, String.toList_append, hr.trail _ (by decide_cbv)]

theorem read_notNull (column : String) :
    read (Atom.notNull column : Atom Placeholder).text.toList = read column.toList := by
  have e : (Atom.notNull column : Atom Placeholder).text = column ++ " is not null" := rfl
  rw [e, String.toList_append, hr.trail _ (by decide_cbv)]

theorem read_compare (left : String) (relation : Relation) (right : Placeholder)
    (type : Option String) :
    read (Atom.compare left relation right type).text.toList =
      read left.toList ++ (read right.text.toList ++
        type.toList.flatMap fun type => read type.toList) := by
  have hgap : isGap (" " ++ relation.symbol ++ " ") := by cases relation <;> decide_cbv
  have e : (Atom.compare left relation right type).text =
      left ++ " " ++ relation.symbol ++ " " ++ type.elim right.text (Atom.castText right) := rfl
  have e' : (Atom.compare left relation right type).text =
      left ++ ((" " ++ relation.symbol ++ " ") ++ type.elim right.text (Atom.castText right)) := by
    rw [e]
    simp only [String.append_assoc]
  rw [e', String.toList_append, String.toList_append, hr.gap _ hgap]
  cases type with
  | none => simp only [Option.elim_none, Option.toList_none, List.flatMap_nil, List.append_nil]
  | some type =>
      simp only [Option.elim_some, hr.read_castText, Option.toList_some, List.flatMap_singleton]

theorem read_between (column : String) (lower upper : Placeholder) :
    read (Atom.between column lower upper).text.toList =
      read column.toList ++ (read lower.text.toList ++ read upper.text.toList) := by
  have e : (Atom.between column lower upper).text =
      column ++ " between " ++ lower.text ++ " and " ++ upper.text := rfl
  rw [e, String.toList_append, String.toList_append, String.toList_append, String.toList_append,
    List.append_assoc, List.append_assoc, List.append_assoc, hr.gap _ (by decide_cbv),
    hr.gap _ (by decide_cbv)]

theorem read_casted (column before : String) (p : Placeholder) (type after : String)
    (hb : isGap before) (ha : isTrail after) :
    read (column ++ before ++ Atom.castText p type ++ after).toList =
      read column.toList ++ (read p.text.toList ++ read type.toList) := by
  rw [String.toList_append, hr.trail _ ha, String.toList_append, String.toList_append,
    List.append_assoc, hr.gap _ hb, hr.read_castText]

theorem read_oneOf (column : String) (values : Placeholder) (type : String) :
    read (Atom.oneOf column values type).text.toList =
      read column.toList ++ (read values.text.toList ++ read (type ++ "[]").toList) :=
  hr.read_casted column " = any(" values (type ++ "[]") ")" (by decide_cbv) (by decide_cbv)

theorem read_noneOf (column : String) (values : Placeholder) (type : String) :
    read (Atom.noneOf column values type).text.toList =
      read column.toList ++ (read values.text.toList ++ read (type ++ "[]").toList) :=
  hr.read_casted column " <> all(" values (type ++ "[]") ")" (by decide_cbv) (by decide_cbv)

/-- An array column in parentheses with a comparison. -/
theorem read_enclosed (front column : String) (p : Placeholder) (hf : isLead front) :
    read (front ++ column ++ " && " ++ Atom.castText p "int[]" ++ ")").toList =
      read column.toList ++ (read p.text.toList ++ read "int[]".toList) := by
  rw [String.toList_append, hr.trail _ (by decide_cbv), String.toList_append,
    String.toList_append, String.toList_append, List.append_assoc, List.append_assoc,
    hr.lead hf, hr.gap _ (by decide_cbv), hr.read_castText]

theorem read_overlaps (column : String) (values : Placeholder) :
    read (Atom.overlaps column values).text.toList =
      read column.toList ++ (read values.text.toList ++ read "int[]".toList) :=
  hr.read_enclosed "(" column values (by decide_cbv)

theorem read_disjoint (column : String) (values : Placeholder) :
    read (Atom.disjoint column values).text.toList =
      read column.toList ++ (read values.text.toList ++ read "int[]".toList) :=
  hr.read_enclosed "(not " column values (by decide_cbv)

theorem read_matchesText (column : String) (q : TextQuery Placeholder) :
    read (Atom.matchesText column q).text.toList = read column.toList ++ read q.text.toList := by
  have e : (Atom.matchesText column q).text = column ++ " @@ " ++ q.text := rfl
  rw [e, String.toList_append, String.toList_append, List.append_assoc, hr.gap _ (by decide_cbv)]

theorem mem_reaches {viewer : Placeholder} {x : β}
    (h : x ∈ read (Atom.reaches viewer).text.toList) :
    (∃ w ∈ (Atom.reaches viewer).phrases, x ∈ read w.toList) ∨ x ∈ read viewer.text.toList := by
  have e : (Atom.reaches viewer).text =
      "p.destination_feed_ids && array(select f.id from feeds f where (f.name = 'Directs'" ++
        " and f.user_id = " ++ Atom.castText viewer "uuid" ++ ")" ++
        " or f.uid in (select s.feed_id from subscriptions s where s.user_id = " ++
        Atom.castText viewer "uuid" ++ "))" := rfl
  rw [e, String.toList_append, hr.trail _ (by decide_cbv), String.toList_append,
    String.toList_append, String.toList_append, String.toList_append, String.toList_append,
    List.append_assoc, List.append_assoc, List.append_assoc, List.append_assoc] at h
  rw [hr.between _ (by decide_cbv) (by decide_cbv), hr.gap _ (by decide_cbv),
    hr.append_of_closes _ (by decide_cbv), hr.read_castText,
    hr.plain "uuid".toList (by decide_cbv)] at h
  simp only [List.append_nil, List.mem_append] at h
  rcases h with h | h | h | h | h
  · exact Or.inl ⟨_, List.mem_cons_self, h⟩
  · exact Or.inl ⟨_, List.mem_cons_of_mem _ List.mem_cons_self, h⟩
  · exact Or.inr h
  · exact Or.inl ⟨_, List.mem_cons_of_mem _ (List.mem_cons_of_mem _ List.mem_cons_self), h⟩
  · exact Or.inr h

theorem mem_notBanned {viewer : Placeholder} {author : String} {x : β}
    (h : x ∈ read (Atom.notBanned viewer author).text.toList) :
    x ∈ read author.toList ∨
      (∃ w ∈ (Atom.notBanned viewer author).phrases, x ∈ read w.toList) ∨
      x ∈ read viewer.text.toList := by
  have e : (Atom.notBanned viewer author).text =
      "not exists (select 1 from bans b where b.user_id = " ++ Atom.castText viewer "uuid" ++
        " and b.banned_user_id = " ++ author ++ ")" := rfl
  rw [e, String.toList_append, hr.trail _ (by decide_cbv), String.toList_append,
    String.toList_append, String.toList_append, List.append_assoc, List.append_assoc] at h
  rw [hr.append_of_closes _ (by decide_cbv), hr.between _ (by decide_cbv) (by decide_cbv),
    hr.read_castText, hr.plain "uuid".toList (by decide_cbv)] at h
  simp only [List.append_nil, List.mem_append] at h
  rcases h with h | h | h | h
  · exact Or.inr (Or.inl ⟨_, List.mem_cons_self, h⟩)
  · exact Or.inr (Or.inr h)
  · exact Or.inr (Or.inl ⟨_, List.mem_cons_of_mem _ List.mem_cons_self, h⟩)
  · exact Or.inl h

end Reading

/-! ### Restrictions -/

section

variable {β : Type} {read : List Char → List β} {x : β}

mutual

theorem Reading.mem_textQuery (hr : Reading read) : ∀ q : TextQuery Placeholder,
    x ∈ read q.text.toList → ∃ p ∈ q.operands, x ∈ read p.text.toList
  | .term config excluded mode value, h => by
      rw [hr.read_term, List.mem_append] at h
      rcases h with h | h
      · exact ⟨config, List.mem_cons_self, h⟩
      · exact ⟨value, List.mem_cons_of_mem _ List.mem_cons_self, h⟩
  | .joined joint parts, h => by
      rw [TextQuery.text] at h
      obtain ⟨s, hs, hx⟩ := hr.mem_joinedText h
      exact Reading.mem_textQueries hr parts hs hx

theorem Reading.mem_textQueries (hr : Reading read) : ∀ qs : List (TextQuery Placeholder),
    ∀ {s : String}, s ∈ TextQuery.texts qs → x ∈ read s.toList →
      ∃ p ∈ TextQuery.operandsAll qs, x ∈ read p.text.toList
  | [], s, hs, _ => by
      rw [TextQuery.texts] at hs
      cases hs
  | q :: qs, s, hs, hx => by
      rw [TextQuery.texts, List.mem_cons] at hs
      rcases hs with rfl | hs
      · obtain ⟨p, hp, h⟩ := Reading.mem_textQuery hr q hx
        exact ⟨p, List.mem_append_left _ hp, h⟩
      · obtain ⟨p, hp, h⟩ := Reading.mem_textQueries hr qs hs hx
        exact ⟨p, List.mem_append_right _ hp, h⟩

end

/-- What is read off the words of a comparison with a list comes from the column, from the type of
the list, or from its placeholder. -/
theorem mem_listed {s column type : String} {values : Placeholder}
    (e : read s.toList = read column.toList ++ (read values.text.toList ++ read type.toList))
    (h : x ∈ read s.toList) :
    (∃ w ∈ [column, type], x ∈ read w.toList) ∨ ∃ p ∈ [values], x ∈ read p.text.toList := by
  rw [e, List.mem_append, List.mem_append] at h
  rcases h with h | h | h
  · exact Or.inl ⟨column, List.mem_cons_self, h⟩
  · exact Or.inr ⟨values, List.mem_singleton_self _, h⟩
  · exact Or.inl ⟨type, List.mem_cons_of_mem _ List.mem_cons_self, h⟩

theorem Reading.mem_atom (hr : Reading read) (a : Atom Placeholder)
    (h : x ∈ read a.text.toList) :
    (∃ w ∈ a.columns, x ∈ read w.toList) ∨ (∃ w ∈ a.phrases, x ∈ read w.toList) ∨
      ∃ p ∈ a.operands, x ∈ read p.text.toList := by
  cases a with
  | verbatim s => exact Or.inl ⟨s, List.mem_singleton_self s, h⟩
  | flag column => exact Or.inl ⟨column, List.mem_singleton_self _, h⟩
  | isNull column =>
      rw [hr.read_isNull] at h
      exact Or.inl ⟨column, List.mem_singleton_self _, h⟩
  | notNull column =>
      rw [hr.read_notNull] at h
      exact Or.inl ⟨column, List.mem_singleton_self _, h⟩
  | compare left relation right type =>
      rw [hr.read_compare, List.mem_append, List.mem_append, List.mem_flatMap] at h
      rcases h with h | h | ⟨type', ht, h⟩
      · exact Or.inl ⟨left, List.mem_cons_self, h⟩
      · exact Or.inr (Or.inr ⟨right, List.mem_singleton_self _, h⟩)
      · exact Or.inl ⟨type', List.mem_cons_of_mem _ ht, h⟩
  | between column lower upper =>
      rw [hr.read_between, List.mem_append, List.mem_append] at h
      rcases h with h | h | h
      · exact Or.inl ⟨column, List.mem_singleton_self _, h⟩
      · exact Or.inr (Or.inr ⟨lower, List.mem_cons_self, h⟩)
      · exact Or.inr (Or.inr ⟨upper, List.mem_cons_of_mem _ List.mem_cons_self, h⟩)
  | oneOf column values type =>
      exact (mem_listed (hr.read_oneOf column values type) h).imp_right Or.inr
  | noneOf column values type =>
      exact (mem_listed (hr.read_noneOf column values type) h).imp_right Or.inr
  | overlaps column values =>
      exact (mem_listed (hr.read_overlaps column values) h).imp_right Or.inr
  | disjoint column values =>
      exact (mem_listed (hr.read_disjoint column values) h).imp_right Or.inr
  | matchesText column q =>
      rw [hr.read_matchesText, List.mem_append] at h
      exact h.imp (fun h => ⟨column, List.mem_singleton_self _, h⟩)
        fun h => Or.inr (hr.mem_textQuery q h)
  | reaches viewer =>
      refine Or.inr ((hr.mem_reaches h).imp_right fun h => ?_)
      exact ⟨viewer, List.mem_singleton_self _, h⟩
  | notBanned viewer author =>
      rcases hr.mem_notBanned h with h | h | h
      · exact Or.inl ⟨author, List.mem_singleton_self _, h⟩
      · exact Or.inr (Or.inl h)
      · exact Or.inr (Or.inr ⟨viewer, List.mem_singleton_self _, h⟩)

/-- What is read off a restriction comes from an atom of it. -/
def ComesFrom (read : List Char → List β) (x : β) (as : List (Atom Placeholder)) : Prop :=
  ∃ a ∈ as, x ∈ read a.text.toList

mutual

theorem Reading.comesFrom (hr : Reading read) : ∀ f : Restriction Placeholder,
    x ∈ read f.text.toList → ComesFrom read x f.atoms
  | .const b, h => by
      rw [Restriction.text, hr.plain _ (by cases b <;> decide_cbv)] at h
      cases h
  | .atom a, h => by
      rw [Restriction.text] at h
      exact ⟨a, List.mem_singleton_self a, h⟩
  | .not f, h => by
      rw [Restriction.text] at h
      exact Reading.comesFrom hr f (hr.mem_negate h)
  | .all fs, h => by
      rw [Restriction.text] at h
      obtain ⟨s, hs, hx⟩ := hr.mem_conjoin h
      exact Reading.comesFromAll hr fs hs hx
  | .any fs, h => by
      rw [Restriction.text] at h
      obtain ⟨s, hs, hx⟩ := hr.mem_disjoin h
      exact Reading.comesFromAll hr fs hs hx
  | .someRow f, h => by
      rw [Restriction.text] at h
      refine Reading.comesFrom hr f ?_
      split at h
      · rwa [String.toList_append, hr.trail _ (by decide_cbv), String.toList_append,
          hr.lead (by decide_cbv)] at h
      · exact h

theorem Reading.comesFromAll (hr : Reading read) : ∀ fs : List (Restriction Placeholder),
    ∀ {s : String}, s ∈ Restriction.texts fs → x ∈ read s.toList →
      ComesFrom read x (Restriction.atomsAll fs)
  | [], s, hs, _ => by
      rw [Restriction.texts] at hs
      cases hs
  | f :: fs, s, hs, hx => by
      rw [Restriction.texts, List.mem_cons] at hs
      rcases hs with rfl | hs
      · obtain ⟨a, ha, h⟩ := Reading.comesFrom hr f hx
        exact ⟨a, List.mem_append_left _ ha, h⟩
      · obtain ⟨a, ha, h⟩ := Reading.comesFromAll hr fs hs hx
        exact ⟨a, List.mem_append_right _ ha, h⟩

end

/-- What is read off a restriction comes from a column, a phrase or a placeholder. -/
theorem Reading.mem_text (hr : Reading read) (f : Restriction Placeholder)
    (h : x ∈ read f.text.toList) :
    (∃ w ∈ f.columns, x ∈ read w.toList) ∨ (∃ w ∈ Atom.allPhrases, x ∈ read w.toList) ∨
      ∃ p ∈ f.operands, x ∈ read p.text.toList := by
  obtain ⟨a, ha, hx⟩ := hr.comesFrom f h
  rcases hr.mem_atom a hx with ⟨w, hw, h⟩ | ⟨w, hw, h⟩ | ⟨p, hp, h⟩
  · exact Or.inl ⟨w, List.mem_flatMap.2 ⟨a, ha, hw⟩, h⟩
  · exact Or.inr (Or.inl ⟨w, a.phrases_subset hw, h⟩)
  · exact Or.inr (Or.inr ⟨p, List.mem_flatMap.2 ⟨a, ha, hp⟩, h⟩)

end

end PostSearch.Sql
