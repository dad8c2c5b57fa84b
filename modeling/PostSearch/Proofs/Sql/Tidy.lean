import PostSearch.Proofs.Sql.Junction
import PostSearch.Proofs.Sql.Operands

/-! # Texts that may stand in a conjunction

In a group `(x and y)` a part may hold an alternative only within parentheses of its own. A text is
tidy if its parentheses are balanced and no word outside of them is `or`. Words may follow tidy
words, and any balanced text may be put between parentheses.

Main statement: every restriction is tidy if its columns and placeholders are
(`Restriction.isTidy_text`). -/

namespace PostSearch.Sql

/-! ### Parentheses -/

/-- How deep in parentheses the end of the text is, if its start is `depth` deep. There is no answer
if a parenthesis is closed that was not open. -/
def depthAfter (depth : Nat) : List Char → Option Nat
  | [] => some depth
  | c :: s =>
    if c = '(' then depthAfter (depth + 1) s
    else if c = ')' then if depth = 0 then none else depthAfter (depth - 1) s
    else depthAfter depth s

/-- What stands outside of all parentheses, and these themselves. -/
def outside (depth : Nat) : List Char → List Char
  | [] => []
  | c :: s =>
    let next := if c = '(' then depth + 1 else if c = ')' then depth - 1 else depth
    if depth = 0 ∨ next = 0 then c :: outside next s else outside next s

/-- Every parenthesis in the text is closed. -/
def IsBalanced (s : String) : Prop :=
  depthAfter 0 s.toList = some 0

/-- The text may stand in a conjunction: its parentheses are balanced, and there is no alternative
outside of them. -/
def IsOperand (s : String) : Prop :=
  IsBalanced s ∧ Text.contains " or ".toList (outside 0 s.toList) = false

def stepDepth (depth : Nat) (c : Char) : Nat :=
  if c = '(' then depth + 1 else if c = ')' then depth - 1 else depth

theorem depthAfter_cons (depth : Nat) (c : Char) (s : List Char) : depthAfter depth (c :: s) =
    if c = ')' ∧ depth = 0 then none else depthAfter (stepDepth depth c) s := by
  rw [depthAfter, stepDepth]
  by_cases h₁ : c = '('
  · subst h₁
    simp
  · by_cases h₂ : c = ')'
    · subst h₂
      simp
    · simp [h₁, h₂]

theorem stepDepth_add {depth : Nat} {c : Char} (h : ¬(c = ')' ∧ depth = 0)) (k : Nat) :
    stepDepth (depth + k) c = stepDepth depth c + k := by
  unfold stepDepth
  split
  · omega
  · split
    · rename_i hc
      have : depth ≠ 0 := fun h0 => h ⟨hc, h0⟩
      omega
    · rfl

theorem outside_cons (depth : Nat) (c : Char) (s : List Char) : outside depth (c :: s) =
    (if depth = 0 ∨ stepDepth depth c = 0 then [c] else []) ++ outside (stepDepth depth c) s := by
  show (if depth = 0 ∨ stepDepth depth c = 0 then c :: outside (stepDepth depth c) s
    else outside (stepDepth depth c) s) = _
  split <;> rfl

theorem depthAfter_append : ∀ (s t : List Char) (depth : Nat),
    depthAfter depth (s ++ t) = (depthAfter depth s).bind fun d => depthAfter d t
  | [], _, _ => rfl
  | c :: s, t, depth => by
      rw [List.cons_append, depthAfter_cons, depthAfter_cons]
      split
      · rfl
      · exact depthAfter_append s t _

/-- Deeper inside, a text ends as much deeper. -/
theorem depthAfter_add : ∀ {s : List Char} {depth d : Nat}, depthAfter depth s = some d →
    ∀ k, depthAfter (depth + k) s = some (d + k)
  | [], depth, d, h, k => by
      cases h
      rfl
  | c :: s, depth, d, h, k => by
      rw [depthAfter_cons] at h ⊢
      split at h
      · cases h
      · rename_i hc
        rw [if_neg (fun h0 => hc ⟨h0.1, by omega⟩), stepDepth_add hc]
        exact depthAfter_add h k

theorem outside_append {t : List Char} : ∀ {s : List Char} {depth d : Nat},
    depthAfter depth s = some d → outside depth (s ++ t) = outside depth s ++ outside d t
  | [], depth, d, h => by
      cases h
      rfl
  | c :: s, depth, d, h => by
      rw [depthAfter_cons] at h
      split at h
      · cases h
      · rw [List.cons_append, outside_cons, outside_cons, outside_append h, List.append_assoc]

theorem outside_eq_nil : ∀ {s : List Char} {depth d : Nat}, depthAfter depth s = some d →
    outside (depth + 1) s = []
  | [], _, _, _ => rfl
  | c :: s, depth, d, h => by
      rw [depthAfter_cons] at h
      split at h
      · cases h
      · rename_i hc
        rw [outside_cons, stepDepth_add hc, if_neg (by omega), List.nil_append]
        exact outside_eq_nil h

theorem IsBalanced.append {s t : String} (hs : IsBalanced s) (ht : IsBalanced t) :
    IsBalanced (s ++ t) := by
  rw [IsBalanced, String.toList_append, depthAfter_append, hs]
  exact ht

theorem isBalanced_joinWith {sep : String} (hsep : IsBalanced sep) : ∀ {ps : List String},
    (∀ p ∈ ps, IsBalanced p) → IsBalanced (Text.joinWith sep ps)
  | [], _ => rfl
  | [p], h => h p (List.mem_singleton_self p)
  | p :: q :: rest, h => by
      rw [Text.joinWith]
      refine ((h p List.mem_cons_self).append hsep).append (isBalanced_joinWith hsep fun r hr => ?_)
      exact h r (List.mem_cons_of_mem _ hr)

/-! ### Tidy texts -/

/-- The text is balanced, and none of the words outside of parentheses is `or`. -/
def IsTidy (s : String) : Prop :=
  depthAfter 0 s.toList = some 0 ∧ ['o', 'r'] ∉ (outside 0 s.toList).splitOn ' '

instance (s : String) : Decidable (IsTidy s) :=
  inferInstanceAs (Decidable (_ ∧ _))

theorem IsTidy.isBalanced {s : String} (h : IsTidy s) : IsBalanced s :=
  h.1

theorem depthAfter_of_plain : ∀ {s : List Char}, '(' ∉ s → ')' ∉ s → ∀ d, depthAfter d s = some d
  | [], _, _, _ => rfl
  | c :: s, ho, hc, d => by
      rw [List.mem_cons, not_or] at ho hc
      rw [depthAfter, if_neg (Ne.symm ho.1), if_neg (Ne.symm hc.1)]
      exact depthAfter_of_plain ho.2 hc.2 d

theorem outside_of_plain : ∀ {s : List Char}, '(' ∉ s → ')' ∉ s → outside 0 s = s
  | [], _, _ => rfl
  | c :: s, ho, hc => by
      rw [List.mem_cons, not_or] at ho hc
      have hstep : stepDepth 0 c = 0 := by
        rw [stepDepth, if_neg (Ne.symm ho.1), if_neg (Ne.symm hc.1)]
      rw [outside_cons, hstep, outside_of_plain ho.2 hc.2, if_pos (Or.inl rfl)]
      rfl

theorem isTidy_of_word {s : String} (ho : '(' ∉ s.toList) (hc : ')' ∉ s.toList)
    (hb : ' ' ∉ s.toList) (hne : s.toList ≠ ['o', 'r']) : IsTidy s := by
  refine ⟨depthAfter_of_plain ho hc 0, ?_⟩
  rw [outside_of_plain ho hc, List.splitOn_eq_singleton hb, List.mem_singleton]
  exact Ne.symm hne

theorem exists_of_contains {word : List Char} : ∀ {s : List Char},
    Text.contains word s = true → ∃ front rest, s = front ++ (word ++ rest)
  | [], h => by
      rw [Text.contains, List.isEmpty_iff] at h
      exact ⟨[], [], by rw [h]; rfl⟩
  | c :: s, h => by
      rw [Text.contains, Bool.or_eq_true] at h
      rcases h with h | h
      · obtain ⟨rest, hr⟩ := List.isPrefixOf_iff_prefix.1 h
        exact ⟨[], rest, hr.symm⟩
      · obtain ⟨front, rest, hs⟩ := exists_of_contains h
        exact ⟨c :: front, rest, by rw [hs]; rfl⟩

theorem IsTidy.isOperand {s : String} (h : IsTidy s) : IsOperand s := by
  refine ⟨h.1, Bool.eq_false_iff.2 fun hc => h.2 ?_⟩
  obtain ⟨front, rest, e⟩ := exists_of_contains hc
  have hor : " or ".toList = ' ' :: (['o', 'r'] ++ [' ']) := String.toList_ofList
  rw [e, hor, List.cons_append, List.append_assoc, List.singleton_append,
    List.splitOn_append_cons_self, List.splitOn_append_cons_self]
  exact List.mem_append_right _ (List.mem_append_left _ (by decide))

theorem isBalanced_ofList {s : List Char} (h : depthAfter 0 s = some 0) :
    IsBalanced (String.ofList s) := by
  rwa [IsBalanced, String.toList_ofList]

theorem isTidy_ofList {s : List Char}
    (h : depthAfter 0 s = some 0 ∧ ['o', 'r'] ∉ (outside 0 s).splitOn ' ') :
    IsTidy (String.ofList s) := by
  rwa [IsTidy, String.toList_ofList]

/-- Tidy words may follow each other. -/
theorem IsTidy.join {s t : String} (hs : IsTidy s) (ht : IsTidy t) : IsTidy (s ++ " " ++ t) := by
  have e : (s ++ " " ++ t).toList = s.toList ++ ' ' :: t.toList := by simp
  have hblank : depthAfter 0 (' ' :: t.toList) = some 0 := ht.1
  have hout : outside 0 (' ' :: t.toList) = ' ' :: outside 0 t.toList := rfl
  rw [IsTidy, e]
  constructor
  · rw [depthAfter_append, hs.1]
    exact hblank
  · rw [outside_append hs.1, hout, List.splitOn_append_cons_self, List.mem_append]
    exact fun h => h.elim hs.2 ht.2

/-- A tidy word behind a tidy text. -/
theorem IsTidy.append {s w : String} (hs : IsTidy s) (hw : IsTidy w) :
    IsTidy (s ++ (" " ++ w)) := by
  rw [← String.append_assoc]
  exact hs.join hw

theorem IsTidy.between {s w t : String} (hs : IsTidy s) (hw : IsTidy w) (ht : IsTidy t) :
    IsTidy (s ++ (" " ++ w ++ " ") ++ t) := by
  have e : s ++ (" " ++ w ++ " ") ++ t = s ++ " " ++ w ++ " " ++ t := by
    rw [← String.append_assoc, ← String.append_assoc]
  rw [e]
  exact (hs.join hw).join ht

/-! ### Texts within parentheses -/

/-- The text is within parentheses at its end. -/
def isOpen (s : String) : Bool :=
  match depthAfter 0 s.toList with
  | some (_ + 1) => true
  | _ => false

theorem exists_depth {s : String} (h : isOpen s) :
    ∃ d, depthAfter 0 s.toList = some (d + 1) := by
  unfold isOpen at h
  split at h
  · rename_i d hd
    exact ⟨d, hd⟩
  · cases h

theorem depthAfter_inner {inner : String} (h : IsBalanced inner) (d : Nat) :
    depthAfter d inner.toList = some d := by
  have := depthAfter_add h d
  rwa [Nat.zero_add] at this

/-- Balanced texts make no difference to the depth. -/
theorem isOpen_insert (front back : String) {inner : String} (hi : IsBalanced inner) :
    isOpen (front ++ inner ++ back) = isOpen (front ++ back) := by
  have e : depthAfter 0 (front ++ inner ++ back).toList = depthAfter 0 (front ++ back).toList := by
    rw [String.toList_append, String.toList_append, String.toList_append, depthAfter_append,
      depthAfter_append, depthAfter_append]
    cases depthAfter 0 front.toList with
    | none => rfl
    | some d => rw [Option.bind_some, Option.bind_some, depthAfter_inner hi, Option.bind_some]
  rw [isOpen, e, isOpen]

theorem isOpen_append {s t : String} (hs : IsBalanced s) (ht : isOpen t) : isOpen (s ++ t) := by
  have := isOpen_insert "" t hs
  rw [String.empty_append, String.empty_append] at this
  rwa [this]

/-- Texts between which there is room for another. -/
structure IsBracket (front back : String) : Prop where
  isTidy : IsTidy (front ++ back)
  isOpen : isOpen front

/-- Any balanced text may be put within parentheses. -/
theorem IsBracket.insert {front back inner : String} (h : IsBracket front back)
    (hi : IsBalanced inner) : IsTidy (front ++ inner ++ back) := by
  obtain ⟨⟨h₁, h₂⟩, ho⟩ := h
  obtain ⟨d, hd⟩ := exists_depth ho
  have hboth : depthAfter 0 (front.toList ++ inner.toList) = some (d + 1) := by
    rw [depthAfter_append, hd]
    exact depthAfter_inner hi (d + 1)
  rw [String.toList_append, depthAfter_append, hd] at h₁
  rw [String.toList_append, outside_append hd] at h₂
  rw [IsTidy, String.toList_append, String.toList_append]
  constructor
  · rw [depthAfter_append, hboth]
    exact h₁
  · rwa [outside_append hboth, outside_append hd, outside_eq_nil (depthAfter_inner hi d),
      List.append_nil]

/-- What is put within parentheses may leave room for more. -/
theorem IsBracket.insert_open {front middle back inner : String}
    (h : IsBracket front (middle ++ back)) (ho : PostSearch.Sql.isOpen (front ++ middle))
    (hi : IsBalanced inner) : IsBracket (front ++ inner ++ middle) back where
  isTidy := by
    rw [String.append_assoc]
    exact h.insert hi
  isOpen := by rwa [isOpen_insert _ _ hi]

theorem IsBracket.after {s front back : String} (hs : IsTidy s) (h : IsBracket front back) :
    IsBracket (s ++ (" " ++ front)) back where
  isTidy := by
    rw [String.append_assoc, String.append_assoc]
    exact hs.append h.isTidy
  isOpen := isOpen_append hs.isBalanced (isOpen_append (isBalanced_ofList rfl) h.isOpen)

/-! ### Fixed texts -/

theorem isOpen_ofList {s : List Char} {d : Nat} (h : depthAfter 0 s = some (d + 1)) :
    isOpen (String.ofList s) := by
  rw [isOpen, String.toList_ofList, h]

theorem isBracket_ofList {s t : List Char} {d : Nat}
    (h : depthAfter 0 (s ++ t) = some 0 ∧ ['o', 'r'] ∉ (outside 0 (s ++ t)).splitOn ' ')
    (ho : depthAfter 0 s = some (d + 1)) : IsBracket (String.ofList s) (String.ofList t) where
  isTidy := by
    rw [← String.ofList_append]
    exact isTidy_ofList h
  isOpen := isOpen_ofList ho

/-! ### Joined texts -/

theorem isTidy_grouped {joiner : String} (hj : IsBalanced joiner)
    {ps : List String} (h : ∀ p ∈ ps, IsBalanced p) : IsTidy (grouped joiner ps) := by
  have hb : IsBracket "(" ")" := isBracket_ofList (by decide) rfl
  have hblank : IsBalanced " " := isBalanced_ofList rfl
  exact hb.insert (isBalanced_joinWith ((hblank.append hj).append hblank) h)

theorem isTidy_joinParts {absorbing identity joiner : String} (ha : IsTidy absorbing)
    (hi : IsTidy identity) (hj : IsBalanced joiner) {parts : List String}
    (h : ∀ p ∈ parts, IsTidy p) : IsTidy (joinParts absorbing identity joiner parts) :=
  joinParts_induction ha hi (fun _ hps => isTidy_grouped hj fun p hp => (hps p hp).isBalanced) h

theorem isTidy_negate {s : String} (h : IsTidy s) : IsTidy (negate s) := by
  unfold negate
  split
  · exact isTidy_ofList (by decide)
  · split
    · exact isTidy_ofList (by decide)
    · split
      · have hb : IsBracket "not (" ")" := isBracket_ofList (by decide) rfl
        exact hb.insert h.isBalanced
      · have hnot : IsTidy "not" := isTidy_ofList (by decide)
        exact hnot.join h

/-! ### Text queries -/

theorem isTidy_call {config value : Placeholder} (hc : IsTidy config.text) (hv : IsTidy value.text)
    (mode : MatchMode) : IsTidy (mode.reader ++ "(cast(" ++ config.text ++ " as regconfig), " ++
      value.text ++ ")") := by
  have hreader : IsBalanced mode.reader := by cases mode <;> exact isBalanced_ofList rfl
  have hcall : IsBracket (mode.reader ++ "(cast(") (" as regconfig), " ++ ")") := by
    constructor
    · cases mode <;> decide +kernel
    · exact isOpen_append hreader (isOpen_ofList rfl)
  have hvalue : isOpen (mode.reader ++ "(cast(" ++ " as regconfig), ") := by
    rw [String.append_assoc, ← String.ofList_append]
    exact isOpen_append hreader (isOpen_ofList rfl)
  exact (hcall.insert_open hvalue hc.isBalanced).insert hv.isBalanced

theorem isTidy_term {config value : Placeholder} (hc : IsTidy config.text)
    (hv : IsTidy value.text) (excluded : Bool) (mode : MatchMode) :
    IsTidy (TextQuery.term config excluded mode value).text := by
  rw [TextQuery.text]
  cases excluded with
  | false => exact isTidy_call hc hv mode
  | true =>
      have hb : IsBracket "(!!" ")" := isBracket_ofList (by decide) rfl
      exact hb.insert (isTidy_call hc hv mode).isBalanced

theorem isTidy_joinedText {joint : TextJoint} {parts : List String} (h : ∀ p ∈ parts, IsTidy p) :
    IsTidy (TextQuery.joinedText joint parts) := by
  unfold TextQuery.joinedText
  split
  · exact h _ (List.mem_singleton_self _)
  · have hj : IsBalanced joint.symbol := by
      cases joint <;> exact isBalanced_ofList rfl
    exact isTidy_grouped hj fun p hp => (h p hp).isBalanced

mutual

theorem TextQuery.isTidy_text : ∀ q : TextQuery Placeholder,
    (∀ p ∈ q.operands, IsTidy p.text) → IsTidy q.text
  | .term config excluded mode value, h =>
      isTidy_term (h config List.mem_cons_self)
        (h value (List.mem_cons_of_mem _ List.mem_cons_self)) excluded mode
  | .joined joint parts, h => by
      rw [TextQuery.text]
      exact isTidy_joinedText (TextQuery.isTidy_texts parts h)

theorem TextQuery.isTidy_texts : ∀ qs : List (TextQuery Placeholder),
    (∀ p ∈ TextQuery.operandsAll qs, IsTidy p.text) → ∀ s ∈ TextQuery.texts qs, IsTidy s
  | [], _, s, hs => by
      rw [TextQuery.texts] at hs
      cases hs
  | q :: qs, h, s, hs => by
      rw [TextQuery.texts, List.mem_cons] at hs
      rcases hs with rfl | hs
      · exact TextQuery.isTidy_text q fun p hp => h p (List.mem_append_left _ hp)
      · exact TextQuery.isTidy_texts qs (fun p hp => h p (List.mem_append_right _ hp)) s hs

end

/-! ### Atoms -/

theorem isTidy_castText {p : Placeholder} {type : String} (hp : IsTidy p.text)
    (ht : IsBalanced type) : IsTidy (Atom.castText p type) := by
  have e : Atom.castText p type = "cast(" ++ (p.text ++ " as " ++ type) ++ ")" := by
    rw [Atom.castText, ← String.append_assoc, ← String.append_assoc]
  have hb : IsBracket "cast(" ")" := isBracket_ofList (by decide) rfl
  rw [e]
  exact hb.insert ((hp.isBalanced.append (isBalanced_ofList rfl)).append ht)

/-- A column and a fixed test of it. -/
theorem isTidy_tested {column test : String} (hc : IsTidy column) (ht : IsTidy test)
    {a : Atom Placeholder} (e : a.text = column ++ (" " ++ test)) : IsTidy a.text := by
  rw [e]
  exact hc.append ht

/-- A column and a list of values, in the parentheses of a word that says how they compare. -/
theorem isTidy_listed {front column type : String} {values : Placeholder}
    (hf : IsBracket front ")") (hc : IsTidy column) (ht : IsBalanced type)
    (hv : IsTidy values.text) {a : Atom Placeholder}
    (e : a.text = column ++ (" " ++ front) ++ Atom.castText values type ++ ")") :
    IsTidy a.text := by
  rw [e]
  exact (hf.after hc).insert (isTidy_castText hv ht).isBalanced

theorem isTidy_compare {left : String} (hl : IsTidy left) (relation : Relation)
    {right : Placeholder} (hr : IsTidy right.text) {type : Option String}
    (ht : ∀ t ∈ type, IsBalanced t) : IsTidy (Atom.compare left relation right type).text := by
  have hsymbol : IsTidy relation.symbol := by
    cases relation <;> exact isTidy_ofList (by decide)
  have hoperand : IsTidy (type.elim right.text (Atom.castText right)) := by
    cases type with
    | none => exact hr
    | some type => exact isTidy_castText hr (ht type rfl)
  exact (hl.join hsymbol).join hoperand

theorem isTidy_between {column : String} (hc : IsTidy column) {lower upper : Placeholder}
    (hl : IsTidy lower.text) (hu : IsTidy upper.text) :
    IsTidy (Atom.between column lower upper).text := by
  have hbetween : IsTidy "between" := isTidy_ofList (by decide)
  have hand : IsTidy "and" := isTidy_ofList (by decide)
  have e : (Atom.between column lower upper).text =
      column ++ " between " ++ lower.text ++ " and " ++ upper.text := rfl
  have ebetween : " between " = " " ++ "between" ++ " " := rfl
  have eand : " and " = " " ++ "and" ++ " " := rfl
  rw [e, ebetween, eand]
  exact (hc.between hbetween hl).between hand hu

theorem isTidy_enclosed {front column : String} {p : Placeholder} (hf : IsBracket front ")")
    (hc : IsBalanced column) (hp : IsTidy p.text) :
    IsTidy (front ++ column ++ " && " ++ Atom.castText p "int[]" ++ ")") := by
  have e : front ++ column ++ " && " ++ Atom.castText p "int[]" =
      front ++ (column ++ " && " ++ Atom.castText p "int[]") := by
    simp only [-String.reduceAppend, String.append_assoc]
  rw [e]
  refine hf.insert ((hc.append (isBalanced_ofList rfl)).append ?_)
  exact (isTidy_castText hp (isBalanced_ofList rfl)).isBalanced

theorem isTidy_reaches {viewer : Placeholder} (h : IsTidy viewer.text) :
    IsTidy (Atom.reaches viewer).text := by
  have hcast : IsBalanced (Atom.castText viewer "uuid") :=
    (isTidy_castText h (isBalanced_ofList rfl)).isBalanced
  have hfeeds : IsBracket
      ("p.destination_feed_ids && array(select f.id from feeds f where (f.name = 'Directs'" ++
        " and f.user_id = ")
      (")" ++ " or f.uid in (select s.feed_id from subscriptions s where s.user_id = " ++
        "))") := by
    rw [← String.ofList_append, ← String.ofList_append, ← String.ofList_append]
    exact isBracket_ofList (d := 1) (by decide +kernel) (by decide +kernel)
  have hsubscriptions := hfeeds.insert_open (by
    rw [← String.ofList_append, ← String.ofList_append, ← String.ofList_append]
    exact isOpen_ofList (d := 1) (by decide +kernel)) hcast
  have hboth := hsubscriptions.insert hcast
  rw [← String.append_assoc] at hboth
  exact hboth

theorem isTidy_notBanned {viewer : Placeholder} {author : String} (h : IsTidy viewer.text)
    (ha : IsBalanced author) : IsTidy (Atom.notBanned viewer author).text := by
  have hcast : IsBalanced (Atom.castText viewer "uuid") :=
    (isTidy_castText h (isBalanced_ofList rfl)).isBalanced
  have hinner : IsBalanced (Atom.castText viewer "uuid" ++ " and b.banned_user_id = " ++ author) :=
    (hcast.append (isBalanced_ofList rfl)).append ha
  have hbans : IsBracket "not exists (select 1 from bans b where b.user_id = " ")" :=
    isBracket_ofList (by decide) rfl
  have hall := hbans.insert hinner
  rw [← String.append_assoc, ← String.append_assoc] at hall
  exact hall

theorem Atom.isTidy_text (a : Atom Placeholder) (hc : ∀ w ∈ a.columns, IsTidy w)
    (ho : ∀ p ∈ a.operands, IsTidy p.text) : IsTidy a.text := by
  cases a with
  | verbatim s => exact hc s (List.mem_singleton_self s)
  | flag column => exact hc column (List.mem_singleton_self _)
  | isNull column =>
      have ht : IsTidy "is null" := isTidy_ofList (by decide)
      exact isTidy_tested (hc column (List.mem_singleton_self _)) ht rfl
  | notNull column =>
      have ht : IsTidy "is not null" := isTidy_ofList (by decide)
      exact isTidy_tested (hc column (List.mem_singleton_self _)) ht rfl
  | compare left relation right type =>
      exact isTidy_compare (hc left List.mem_cons_self) relation
        (ho right (List.mem_singleton_self _))
        fun t ht => (hc t (List.mem_cons_of_mem _ (Option.mem_toList.2 ht))).isBalanced
  | between column lower upper =>
      exact isTidy_between (hc column (List.mem_singleton_self _)) (ho lower List.mem_cons_self)
        (ho upper (List.mem_cons_of_mem _ List.mem_cons_self))
  | oneOf column values type =>
      have hb : IsBracket "= any(" ")" := isBracket_ofList (by decide) rfl
      exact isTidy_listed hb (hc column List.mem_cons_self)
        (hc _ (List.mem_cons_of_mem _ List.mem_cons_self)).isBalanced
        (ho values (List.mem_singleton_self _)) rfl
  | noneOf column values type =>
      have hb : IsBracket "<> all(" ")" := isBracket_ofList (by decide) rfl
      exact isTidy_listed hb (hc column List.mem_cons_self)
        (hc _ (List.mem_cons_of_mem _ List.mem_cons_self)).isBalanced
        (ho values (List.mem_singleton_self _)) rfl
  | overlaps column values =>
      have hb : IsBracket "(" ")" := isBracket_ofList (by decide) rfl
      exact isTidy_enclosed hb (hc column List.mem_cons_self).isBalanced
        (ho values (List.mem_singleton_self _))
  | disjoint column values =>
      have hb : IsBracket "(not " ")" := isBracket_ofList (by decide) rfl
      exact isTidy_enclosed hb (hc column List.mem_cons_self).isBalanced
        (ho values (List.mem_singleton_self _))
  | matchesText column q =>
      have hw : IsTidy "@@" := isTidy_ofList (by decide)
      have e : (Atom.matchesText column q).text = column ++ " @@ " ++ q.text := rfl
      have ew : " @@ " = " " ++ "@@" ++ " " := rfl
      rw [e, ew]
      exact (hc column (List.mem_singleton_self _)).between hw (q.isTidy_text ho)
  | reaches viewer => exact isTidy_reaches (ho viewer (List.mem_singleton_self _))
  | notBanned viewer author =>
      exact isTidy_notBanned (ho viewer (List.mem_singleton_self _))
        (hc author (List.mem_singleton_self _)).isBalanced

/-! ### Restrictions -/

namespace Restriction

mutual

theorem isTidy_of_atoms : ∀ f : Restriction Placeholder, (∀ a ∈ f.atoms, IsTidy a.text) →
    IsTidy f.text
  | .const b, _ => by
      rw [text]
      cases b <;> exact isTidy_ofList (by decide)
  | .atom a, h => by
      rw [text]
      exact h a (List.mem_singleton_self a)
  | .not f, h => by
      rw [text]
      exact isTidy_negate (isTidy_of_atoms f h)
  | .all fs, h => by
      rw [text]
      exact isTidy_joinParts (isTidy_ofList (by decide)) (isTidy_ofList (by decide))
        (isBalanced_ofList rfl) (isTidy_of_atomsAll fs h)
  | .any fs, h => by
      rw [text]
      exact isTidy_joinParts (isTidy_ofList (by decide)) (isTidy_ofList (by decide))
        (isBalanced_ofList rfl) (isTidy_of_atomsAll fs h)
  | .someRow f, h => by
      rw [text]
      split
      · have hb : IsBracket "bool_or(" ")" := isBracket_ofList (by decide) rfl
        exact hb.insert (isTidy_of_atoms f h).isBalanced
      · exact isTidy_of_atoms f h

theorem isTidy_of_atomsAll : ∀ fs : List (Restriction Placeholder),
    (∀ a ∈ atomsAll fs, IsTidy a.text) → ∀ s ∈ texts fs, IsTidy s
  | [], _, s, hs => by
      rw [texts] at hs
      cases hs
  | f :: fs, h, s, hs => by
      rw [texts, List.mem_cons] at hs
      rcases hs with rfl | hs
      · exact isTidy_of_atoms f fun a ha => h a (List.mem_append_left _ ha)
      · exact isTidy_of_atomsAll fs (fun a ha => h a (List.mem_append_right _ ha)) s hs

end

/-- A restriction is tidy if its columns and placeholders are. -/
theorem isTidy_text (f : Restriction Placeholder) (hc : ∀ w ∈ f.columns, IsTidy w)
    (ho : ∀ p ∈ f.operands, IsTidy p.text) : IsTidy f.text := by
  refine isTidy_of_atoms f fun a ha => a.isTidy_text (fun w hw => ?_) fun p hp => ?_
  · exact hc w (List.mem_flatMap.2 ⟨a, ha, hw⟩)
  · exact ho p (List.mem_flatMap.2 ⟨a, ha, hp⟩)

end Restriction

end PostSearch.Sql
