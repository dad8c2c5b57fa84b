import Mathlib.Data.List.DropRight
import PostSearch.Proofs.Sql.Junction
import PostSearch.Proofs.Text.Split

/-! # Reading predicates

A predicate is read from its text as a formula. Blanks stand between words, parentheses at the
ends of words; parentheses bind first, then `not`, then `and`, then `or`, and all other words in a
row are one simple condition or a constant. The reader goes through the signs of the text once and
keeps the groups that are still open on a stack (`readSign`).

Some texts are read as one operand wherever they stand, and what is around them is left alone
(`ReadsOperand`). Simple conditions are such texts, and so is what is built of such texts by `not`,
by parentheses, and by joining in parentheses (`readsOperand_words`, `ReadsOperand.not`,
`ReadsPredicate.group`, `readsOperand_grouped`). -/

namespace PostSearch.Sql

/-! ### Formulas -/

/-- A formula over simple conditions, which are texts. -/
inductive Formula where
  | atom (text : String)
  | const (value : Bool)
  | not (φ : Formula)
  | and (φ ψ : Formula)
  | or (φ ψ : Formula)
deriving DecidableEq, Repr, Inhabited

namespace Formula

/-- Value of the formula where the values of simple conditions are known. -/
def eval (v : String → Bool) : Formula → Bool
  | .atom text => v text
  | .const value => value
  | .not φ => !φ.eval v
  | .and φ ψ => φ.eval v && ψ.eval v
  | .or φ ψ => φ.eval v || ψ.eval v

/-- There is no constant in the formula. -/
def isOpen : Formula → Bool
  | .atom _ => true
  | .const _ => false
  | .not φ => φ.isOpen
  | .and φ ψ | .or φ ψ => φ.isOpen && ψ.isOpen

/-- The formula with so many negations before it. -/
def negated : Nat → Formula → Formula
  | 0, φ => φ
  | k + 1, φ => .not (negated k φ)

/-- Join with `or` if `b` is true, else with `and`. -/
def join (b : Bool) (φ ψ : Formula) : Formula :=
  if b then .or φ ψ else .and φ ψ

/-- Join with what stands before, if there is anything. -/
def joinAfter (b : Bool) : Option Formula → Formula → Formula
  | none, φ => φ
  | some ψ, φ => join b ψ φ

end Formula

/-- Values taken together, those of a disjunction if `b` is true. -/
def joinedValue (b : Bool) (values : List Bool) : Bool :=
  if b then values.any id else values.all id

namespace Formula

theorem eval_foldl_join (b : Bool) (v : String → Bool) (φ : Formula) (φs : List Formula) :
    (φs.foldl (join b) φ).eval v = joinedValue b ((φ :: φs).map (eval v)) := by
  induction φs generalizing φ with
  | nil => cases b <;> simp [joinedValue]
  | cons ψ φs ih =>
      rw [List.foldl_cons, ih]
      cases b <;> simp [joinedValue, join, eval, Bool.and_assoc, Bool.or_assoc]

theorem isOpen_foldl_join (b : Bool) (φ : Formula) (φs : List Formula)
    (h : ∀ ψ ∈ φ :: φs, ψ.isOpen = true) : (φs.foldl (join b) φ).isOpen = true := by
  induction φs generalizing φ with
  | nil => exact h φ List.mem_cons_self
  | cons ψ φs ih =>
      obtain ⟨hφ, hψ⟩ := List.forall_mem_cons.1 h
      obtain ⟨hψ, hφs⟩ := List.forall_mem_cons.1 hψ
      have hjoin : (join b φ ψ).isOpen = true := by
        cases b <;> simp [join, isOpen, hφ, hψ]
      exact ih (join b φ ψ) (List.forall_mem_cons.2 ⟨hjoin, hφs⟩)

end Formula

/-! ### Signs -/

/-- What a text consists of. -/
inductive Sign where
  | opening
  | closing
  | not
  | and
  | or
  | word (w : List Char)
deriving DecidableEq, Repr

/-- The sign that a word is. -/
def signOf (w : List Char) : Sign :=
  if w = "not".toList then .not
  else if w = "and".toList then .and
  else if w = "or".toList then .or
  else .word w

/-- The signs between two blanks: a word with parentheses around it. -/
def chunkSigns : List Char → List Sign
  | '(' :: s => .opening :: chunkSigns s
  | s => signOf (s.rdropWhile (· == ')')) :: (s.rtakeWhile (· == ')')).map fun _ => .closing

/-- The signs of a text. -/
def signs (s : List Char) : List Sign :=
  (Text.splitAt ' ' s).flatMap chunkSigns

theorem signs_blank (s t : List Char) : signs (s ++ ' ' :: t) = signs s ++ signs t := by
  rw [signs, Text.splitAt_cut, List.flatMap_append]
  rfl

theorem signs_opening (s : List Char) : signs ('(' :: s) = .opening :: signs s := by
  have hblank : '(' ≠ ' ' := by decide
  obtain ⟨first, rest, hs, hcons⟩ := Text.splitAt_cons s hblank
  rw [signs, signs, hcons, hs, List.flatMap_cons, List.flatMap_cons, chunkSigns, List.cons_append]

theorem chunkSigns_closing (s : List Char) :
    chunkSigns (s ++ [')']) = chunkSigns s ++ [.closing] := by
  induction s with
  | nil => rfl
  | cons c s ih =>
      by_cases hc : c = '('
      · rw [hc, List.cons_append, chunkSigns, chunkSigns, ih, List.cons_append]
      · have hclose : (')' == ')') = true := rfl
        rw [List.cons_append, chunkSigns, chunkSigns, ← List.cons_append,
          List.rdropWhile_concat_pos (· == ')') _ _ hclose,
          List.rtakeWhile_concat_pos (· == ')') _ _ hclose, List.map_append, List.cons_append]
        · rfl
        · simp [hc]
        · simp [hc]

theorem signs_closing (s : List Char) : signs (s ++ [')']) = signs s ++ [.closing] := by
  have hblank : ')' ≠ ' ' := by decide
  obtain ⟨before, last, hs, hsc⟩ := Text.splitAt_concat s hblank
  rw [signs, signs, hsc, hs, List.flatMap_append, List.flatMap_append, List.append_assoc]
  simp [chunkSigns_closing]

/-! ### Reading -/

/-- What has been read of an operand. -/
inductive Operand where
  | missing
  | words (ws : List (List Char))
  | group (φ : Formula)
deriving DecidableEq, Repr

/-- Words in a row are a constant or a simple condition. -/
def wordsFormula (ws : List (List Char)) : Formula :=
  if ws = ["true".toList] then .const true
  else if ws = ["false".toList] then .const false
  else .atom (String.ofList ([' '].intercalate ws))

/-- The formula that was read. -/
def Operand.formula? : Operand → Option Formula
  | .missing => none
  | .words ws => some (wordsFormula ws)
  | .group φ => some φ

/-- What has been read of a group. -/
structure Frame where
  /-- What stands before the last `or`. -/
  disjuncts : Option Formula
  /-- What stands before the last `and` behind it. -/
  conjuncts : Option Formula
  /-- How often `not` stands before the last operand. -/
  negations : Nat
  operand : Operand
deriving DecidableEq, Repr

namespace Frame

def empty : Frame :=
  ⟨none, none, 0, .missing⟩

/-- The conjunction that the last operand completes. -/
def conjunction? (f : Frame) : Option Formula :=
  f.operand.formula?.map fun φ => .joinAfter false f.conjuncts (φ.negated f.negations)

/-- The disjunction that the last operand completes. -/
def disjunction? (f : Frame) : Option Formula :=
  f.conjunction?.map (.joinAfter true f.disjuncts)

end Frame

/-- What has been read of a text: the innermost open group and those around it. -/
structure Progress where
  frame : Frame
  outer : List Frame
deriving DecidableEq, Repr

/-- Read one more sign. -/
def readSign : Progress → Sign → Option Progress
  | ⟨⟨d, c, k, .missing⟩, outer⟩, .opening => some ⟨.empty, ⟨d, c, k, .missing⟩ :: outer⟩
  | ⟨⟨d, c, k, .missing⟩, outer⟩, .not => some ⟨⟨d, c, k + 1, .missing⟩, outer⟩
  | ⟨⟨d, c, k, .missing⟩, outer⟩, .word w => some ⟨⟨d, c, k, .words [w]⟩, outer⟩
  | ⟨⟨d, c, k, .words ws⟩, outer⟩, .word w => some ⟨⟨d, c, k, .words (ws ++ [w])⟩, outer⟩
  | ⟨f, outer⟩, .and => f.conjunction?.map fun φ => ⟨⟨f.disjuncts, some φ, 0, .missing⟩, outer⟩
  | ⟨f, outer⟩, .or => f.disjunction?.map fun φ => ⟨⟨some φ, none, 0, .missing⟩, outer⟩
  | ⟨f, g :: outer⟩, .closing =>
    f.disjunction?.map fun φ => ⟨{ g with operand := .group φ }, outer⟩
  | _, _ => none

def readSigns : List Sign → Progress → Option Progress
  | [], r => some r
  | s :: rest, r => (readSign r s).bind (readSigns rest)

/-- The formula that a predicate is read as. -/
def read? (s : String) : Option Formula :=
  match readSigns (signs s.toList) ⟨.empty, []⟩ with
  | some ⟨f, []⟩ => f.disjunction?
  | _ => none

/-- Parentheses bind first, then `not`, then `and`, then `or`. -/
example : read? "a = 1 or not (b or c) and true" =
    some (.or (.atom "a = 1") (.and (.not (.or (.atom "b") (.atom "c"))) (.const true))) := by
  decide +kernel

theorem readSigns_append (s t : List Sign) (r : Progress) :
    readSigns (s ++ t) r = (readSigns s r).bind (readSigns t) := by
  induction s generalizing r with
  | nil => rfl
  | cons c s ih =>
      rw [List.cons_append, readSigns, readSigns]
      cases readSign r c with
      | none => rfl
      | some r' => exact ih r'

/-- The second list of signs goes on where the first one has come to. -/
theorem readSigns_append_of_eq {s t : List Sign} {r r' : Progress} (h : readSigns s r = some r') :
    readSigns (s ++ t) r = readSigns t r' := by
  rw [readSigns_append, h]
  rfl

/-! ### Operands -/

/-- The text is read as an operand wherever one is missing, and nothing around it is touched. -/
def ReadsOperand (s : List Char) (φ : Formula) : Prop :=
  ∃ k o ψ, Operand.formula? o = some ψ ∧ φ = ψ.negated k ∧ ∀ d c j outer,
    readSigns (signs s) ⟨⟨d, c, j, .missing⟩, outer⟩ = some ⟨⟨d, c, j + k, o⟩, outer⟩

/-- The text is read as a predicate between parentheses, whatever is around them. -/
def ReadsPredicate (s : List Char) (φ : Formula) : Prop :=
  ∀ outer, ∃ f : Frame, readSigns (signs s) ⟨.empty, outer⟩ = some ⟨f, outer⟩ ∧
    f.disjunction? = some φ

variable {s : List Char} {φ : Formula}

/-- What is read of an operand completes what stands before it. -/
theorem ReadsOperand.exists_frame (h : ReadsOperand s φ) (d c : Option Formula)
    (outer : List Frame) : ∃ f : Frame,
      readSigns (signs s) ⟨⟨d, c, 0, .missing⟩, outer⟩ = some ⟨f, outer⟩ ∧
      f.disjuncts = d ∧ f.conjunction? = some (.joinAfter false c φ) ∧
      f.disjunction? = some (.joinAfter true d (.joinAfter false c φ)) := by
  obtain ⟨k, o, ψ, ho, rfl, hrun⟩ := h
  have hconj : Frame.conjunction? ⟨d, c, 0 + k, o⟩ = some (.joinAfter false c (ψ.negated k)) := by
    simp [Frame.conjunction?, ho]
  refine ⟨⟨d, c, 0 + k, o⟩, hrun d c 0 outer, rfl, hconj, ?_⟩
  rw [Frame.disjunction?, hconj]
  rfl

theorem ReadsOperand.readsPredicate (h : ReadsOperand s φ) : ReadsPredicate s φ := by
  intro outer
  obtain ⟨f, hrun, -, -, hdisj⟩ := h.exists_frame none none outer
  exact ⟨f, hrun, hdisj⟩

theorem ReadsPredicate.read? {s : String} (h : ReadsPredicate s.toList φ) : read? s = some φ := by
  obtain ⟨f, hrun, hdisj⟩ := h []
  unfold Sql.read?
  rw [hrun]
  exact hdisj

/-- A predicate in parentheses is an operand. -/
theorem ReadsPredicate.group (h : ReadsPredicate s φ) : ReadsOperand ('(' :: (s ++ [')'])) φ := by
  refine ⟨0, .group φ, φ, rfl, rfl, ?_⟩
  intro d c j outer
  obtain ⟨f, hrun, hdisj⟩ := h (⟨d, c, j, .missing⟩ :: outer)
  rw [signs_opening, signs_closing, readSigns, readSign]
  show readSigns _ ⟨.empty, _⟩ = _
  rw [readSigns_append_of_eq hrun, readSigns, readSign, hdisj]
  rfl

theorem readSigns_words (ws vs : List (List Char)) (d c : Option Formula) (j : Nat)
    (outer : List Frame) :
    readSigns (vs.map .word) ⟨⟨d, c, j, .words ws⟩, outer⟩ =
      some ⟨⟨d, c, j, .words (ws ++ vs)⟩, outer⟩ := by
  induction vs generalizing ws with
  | nil => simp [readSigns]
  | cons w vs ih =>
      rw [List.map_cons, readSigns, readSign]
      show readSigns _ _ = _
      rw [ih, List.append_assoc]
      rfl

/-- The word is no connective, and no parenthesis is in it. -/
def IsPlain (w : List Char) : Prop :=
  w ∉ ["not".toList, "and".toList, "or".toList] ∧ '(' ∉ w ∧ ')' ∉ w

instance : DecidablePred IsPlain := fun w =>
  inferInstanceAs (Decidable (w ∉ ["not".toList, "and".toList, "or".toList] ∧ '(' ∉ w ∧ ')' ∉ w))

theorem chunkSigns_of_isPlain {w : List Char} (h : IsPlain w) : chunkSigns w = [.word w] := by
  obtain ⟨hword, hopen, hclose⟩ := h
  have hdrop : w.rdropWhile (· == ')') = w := by
    rw [List.rdropWhile_eq_self_iff]
    intro hne he
    exact hclose (beq_iff_eq.1 he ▸ List.getLast_mem hne)
  have htake : w.rtakeWhile (· == ')') = [] := by
    rw [List.rtakeWhile_eq_nil_iff]
    intro hne he
    exact hclose (beq_iff_eq.1 he ▸ List.getLast_mem hne)
  have hsign : signOf w = .word w := by
    simp only [List.mem_cons, List.not_mem_nil, or_false, not_or] at hword
    unfold signOf
    rw [if_neg hword.1, if_neg hword.2.1, if_neg hword.2.2]
  rw [chunkSigns, hdrop, htake, hsign]
  · rfl
  · rintro t rfl
    exact hopen List.mem_cons_self

theorem readsOperand_words (h : ∀ w ∈ Text.splitAt ' ' s, IsPlain w) :
    ReadsOperand s (wordsFormula (Text.splitAt ' ' s)) := by
  have hsigns : signs s = (Text.splitAt ' ' s).map .word := by
    unfold signs
    generalize Text.splitAt ' ' s = ws at h
    induction ws with
    | nil => rfl
    | cons w ws ih =>
        obtain ⟨hw, hws⟩ := List.forall_mem_cons.1 h
        rw [List.flatMap_cons, chunkSigns_of_isPlain hw, ih hws]
        rfl
  obtain ⟨first, rest, hs⟩ := List.exists_cons_of_ne_nil (Text.splitAt_ne_nil ' ' s)
  refine ⟨0, .words (first :: rest), _, rfl, ?_, ?_⟩
  · rw [hs]
    rfl
  · intro d c j outer
    rw [hsigns, hs, List.map_cons, readSigns, readSign]
    exact readSigns_words [first] rest d c j outer

theorem ReadsOperand.not (h : ReadsOperand s φ) : ReadsOperand ("not ".toList ++ s) (.not φ) := by
  obtain ⟨k, o, ψ, ho, rfl, hrun⟩ := h
  have htext : "not ".toList ++ s = "not".toList ++ ' ' :: s := rfl
  have hsigns : signs "not".toList = [.not] := by decide +kernel
  refine ⟨k + 1, o, ψ, ho, rfl, ?_⟩
  intro d c j outer
  rw [htext, signs_blank, hsigns, List.singleton_append, readSigns, readSign]
  show readSigns _ _ = _
  rw [hrun, Nat.add_assoc, Nat.add_comm 1]

/-! ### Joined operands -/

/-- What has been read of a group up to a joining word. -/
def Frame.joined (b : Bool) (before : Option Formula) : Frame :=
  if b then ⟨before, none, 0, .missing⟩ else ⟨none, before, 0, .missing⟩

theorem signs_joiner (b : Bool) (s t : List Char) :
    signs (s ++ (" " ++ joiner b ++ " ").toList ++ t) =
      signs s ++ (if b then .or else .and) :: signs t := by
  have hor : signs "or".toList = [.or] := by decide +kernel
  have hand : signs "and".toList = [.and] := by decide +kernel
  have htext : s ++ (" " ++ joiner b ++ " ").toList ++ t =
      s ++ ' ' :: ((joiner b).toList ++ ' ' :: t) := by simp
  rw [htext, signs_blank, signs_blank]
  cases b
  · rw [joiner, if_neg Bool.false_ne_true, hand]
    rfl
  · rw [joiner, if_pos rfl, hor]
    rfl

/-- An operand behind a joining word completes all that stands before it, which is then what stands
before the next joining word. -/
theorem ReadsOperand.exists_joined (h : ReadsOperand s φ) (b : Bool) (before : Option Formula)
    (outer : List Frame) : ∃ f : Frame,
      readSigns (signs s) ⟨.joined b before, outer⟩ = some ⟨f, outer⟩ ∧
      f.disjunction? = some (.joinAfter b before φ) ∧
      readSign ⟨f, outer⟩ (if b then .or else .and) =
        some ⟨.joined b (some (.joinAfter b before φ)), outer⟩ := by
  cases b with
  | false =>
      obtain ⟨f, hrun, hd, hconj, hdisj⟩ := h.exists_frame none before outer
      refine ⟨f, hrun, hdisj, ?_⟩
      show readSign ⟨f, outer⟩ .and = _
      rw [readSign, hconj, hd]
      rfl
  | true =>
      obtain ⟨f, hrun, -, -, hdisj⟩ := h.exists_frame before none outer
      refine ⟨f, hrun, hdisj, ?_⟩
      show readSign ⟨f, outer⟩ .or = _
      rw [readSign, hdisj]
      rfl

theorem readSigns_joinWith (b : Bool) (before : Option Formula) (outer : List Frame)
    (p : String × Formula) (parts : List (String × Formula))
    (h : ∀ q ∈ p :: parts, ReadsOperand q.1.toList q.2) :
    ∃ f : Frame, readSigns
      (signs (Text.joinWith (" " ++ joiner b ++ " ") ((p :: parts).map Prod.fst)).toList)
      ⟨.joined b before, outer⟩ = some ⟨f, outer⟩ ∧ f.disjunction? =
        some ((parts.map Prod.snd).foldl (.join b) (.joinAfter b before p.2)) := by
  induction parts generalizing before p with
  | nil =>
      obtain ⟨f, hrun, hdisj, -⟩ := (h p List.mem_cons_self).exists_joined b before outer
      exact ⟨f, hrun, hdisj⟩
  | cons q parts ih =>
      obtain ⟨hp, hparts⟩ := List.forall_mem_cons.1 h
      obtain ⟨f, hrun, -, hstep⟩ := hp.exists_joined b before outer
      obtain ⟨f', hrun', hdisj⟩ := ih (some (.joinAfter b before p.2)) q hparts
      refine ⟨f', ?_, hdisj⟩
      rw [List.map_cons, List.map_cons, Text.joinWith, String.toList_append,
        String.toList_append, signs_joiner, readSigns_append_of_eq hrun, readSigns, hstep]
      exact hrun'

/-- Operands with a word between them are one operand in parentheses. -/
theorem readsOperand_grouped (b : Bool) (p : String × Formula) (parts : List (String × Formula))
    (h : ∀ q ∈ p :: parts, ReadsOperand q.1.toList q.2) :
    ReadsOperand (grouped (joiner b) ((p :: parts).map Prod.fst)).toList
      ((parts.map Prod.snd).foldl (.join b) p.2) := by
  have hempty : Frame.joined b none = .empty := by cases b <;> rfl
  rw [grouped_toList]
  apply ReadsPredicate.group
  intro outer
  have hrun := readSigns_joinWith b none outer p parts h
  rw [hempty] at hrun
  exact hrun

end PostSearch.Sql
