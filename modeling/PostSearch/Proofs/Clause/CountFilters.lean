import PostSearch.Clause.Intervals
import PostSearch.Proofs.Interval.Counts
import PostSearch.Proofs.Sql.Placeholders
import PostSearch.Proofs.Sql.Solid
import PostSearch.Proofs.Text.Split

/-! # What counter filters select

A counter expression states counts (`Stated.AdmitsCount`). Its bounds are written as texts, read
again as numbers and bound to the placeholders of a test on a column. Such a test is a small tree
(`CountTest`), and its text is that of no other tree over the placeholders of the same values, so
it is read in one way only.

Main statement: the test selects the counts that the expression states, or, in an excluded
condition, all others (`selects_counts`). -/

namespace PostSearch

open Numeral

namespace Interval

variable {expr text s : List Char} {st : Stated} {i : Interval Int} {n : Int}

/-! ### Counts that are stated -/

def runValue (s : List Char) : Nat :=
  ofDigits 10 (s.filterMap Unicode.digitValue?)

/-- The count compares with the value as stated. -/
def Comparison.AdmitsCount (value n : Int) : Comparison → Prop
  | .equal => n = value
  | .above => value < n
  | .atLeast => value ≤ n
  | .below => n < value
  | .atMost => n ≤ value

/-- The count is one of those that are stated. -/
def Stated.AdmitsCount (n : Int) : Stated → Prop
  | .comparison k value => k.AdmitsCount (runValue value) n
  | .range lower upper => (∀ a ∈ lower, (runValue a : Int) ≤ n) ∧
      ∀ b ∈ upper, n ≤ (runValue b : Int)

/-- The count is within inclusive bounds. -/
def HoldsCount (n : Int) (i : Interval Int) : Prop :=
  (∀ a ∈ i.lower, a ≤ n) ∧ ∀ b ∈ i.upper, n ≤ b

instance (n : Int) (i : Interval Int) : Decidable (HoldsCount n i) :=
  inferInstanceAs (Decidable ((∀ a ∈ i.lower, a ≤ n) ∧ ∀ b ∈ i.upper, n ≤ b))

/-- Strict bounds are moved by one to be inclusive. -/
theorem Comparison.admitsCount_iff (k : Comparison) (value n : Int) :
    k.AdmitsCount value n ↔ HoldsCount n (k.counts value) := by
  cases k <;> simp [AdmitsCount, counts, HoldsCount]
  all_goals omega

theorem readBound_eq_ok {side : Option (List Char)} {b : Option Int}
    (h : readBound side = .ok b) : b = side.map fun s => (runValue s : Int) := by
  cases side with
  | none =>
      cases h
      rfl
  | some s =>
      rw [readBound_some] at h
      obtain ⟨m, hm, rfl⟩ := map_eq_ok.1 h
      obtain ⟨-, rfl⟩ := readDigits_eq_ok.1 hm
      rfl

theorem Stated.admitsCount_iff (h : st.counts = .ok i) : st.AdmitsCount n ↔ HoldsCount n i := by
  cases st with
  | comparison k value =>
      obtain ⟨m, hm, rfl⟩ := map_eq_ok.1 h
      obtain ⟨-, rfl⟩ := readDigits_eq_ok.1 hm
      exact k.admitsCount_iff (runValue value) n
  | range lower upper =>
      obtain ⟨l, hl, h⟩ := bind_eq_ok.1 h
      obtain ⟨u, hu, h⟩ := bind_eq_ok.1 h
      cases h
      rw [readBound_eq_ok hl, readBound_eq_ok hu]
      simp [AdmitsCount, HoldsCount]

/-! ### Expressions of short runs -/

/-- No run of digits in the text has as many digits as the limit. -/
def HasShortRuns (text : List Char) : Prop :=
  ∀ run, run <:+: text → IsRun run → run.length < digitLimit

theorem Spells.not_isOverlong (h : Spells IsRun text st) (hshort : HasShortRuns text) :
    ¬ st.IsOverlong := by
  cases h with
  | @comparison k sign value hs hv =>
      have hlt := hshort value (List.suffix_append sign value).isInfix hv
      rintro (hlong | ⟨-, hlong, -⟩)
      · omega
      · omega
  | @range lower upper hl hu hsome =>
      rintro ⟨a, ha, hlong⟩
      have hlt : a.length < digitLimit := by
        rcases ha with rfl | rfl
        · apply hshort a _ (hl a rfl)
          exact (List.prefix_append _ _).isInfix
        · apply hshort a _ (hu a rfl)
          apply List.IsSuffix.isInfix
          exact ⟨sideText lower ++ ['.', '.'], by simp [sideText]⟩
      omega

/-- Expressions of short runs have bounds if and only if they are spellings. -/
theorem countTexts?_isSome_iff (hshort : HasShortRuns (Text.dropFinalNewline expr)) :
    (∃ r, countTexts? expr = .ok r) ∧ ((∃ bounds, countTexts? expr = .ok (some bounds)) ↔
      ∃ st, Spells IsRun (Text.dropFinalNewline expr) st) := by
  refine ⟨?_, ?_, ?_⟩
  · rw [countTexts?_isOk]
    intro st hst
    exact hst.not_isOverlong hshort
  · rintro ⟨bounds, h⟩
    by_contra hnone
    obtain ⟨found, hfound, h⟩ := bind_eq_ok.1 h
    rw [counts?_of_not_spells (not_exists.1 hnone)] at hfound
    cases hfound
    cases h
  · rintro ⟨st, hst⟩
    have hbounds := (Stated.bounds_iff hst).2 (hst.not_isOverlong hshort)
    obtain ⟨i, hi, ⟨l, hl⟩, ⟨u, hu⟩⟩ := hbounds
    refine ⟨(l, u), bind_eq_ok.2 ⟨some i, ?_, ?_⟩⟩
    · rw [counts?_of_spells hst, hi]
      rfl
    · exact bind_eq_ok.2 ⟨l, hl, bind_eq_ok.2 ⟨u, hu, rfl⟩⟩

end Interval

namespace Clause

open PostSearch.Interval Query Sql

variable {i : Interval Int} {ps : Params} {column : String} {n : Int}

/-! ### Bounds that are read again -/

theorem countBound_countText {bound : Option Int} {t : String} (h : countText bound = .ok t) :
    countBound t = .ok bound := by
  cases bound with
  | none =>
      cases h
      exact if_pos rfl
  | some m =>
      obtain ⟨digits, hdigits, rfl⟩ := map_eq_ok.1 h
      obtain ⟨hlt, rfl⟩ := showInt_eq_ok.1 hdigits
      have hne : String.ofList (intDigits m) ≠ "" := by
        rw [ofList_intDigits]
        exact toString_ne_empty m
      unfold countBound
      rw [if_neg hne, String.toList_ofList, readInt_intDigits hlt]

theorem countRestriction_countTexts {lower upper : String} (hl : countText i.lower = .ok lower)
    (hu : countText i.upper = .ok upper) (excluded : Bool) (operator : Operator) :
    countRestriction column ⟨excluded, operator, [lower, upper]⟩ =
      .ok (signed ⟨excluded, operator, [lower, upper]⟩ (countsRestriction column i)) := by
  have hlower := countBound_countText hl
  have hupper := countBound_countText hu
  exact bind_eq_ok.2 ⟨(lower, upper), rfl, bind_eq_ok.2 ⟨i.lower, hlower,
    bind_eq_ok.2 ⟨i.upper, hupper, rfl⟩⟩⟩

/-! ### Tests on a count -/

def admits (relation : Relation) (value n : Int) : Bool :=
  match relation with
  | .equal => decide (n = value)
  | .below => decide (n < value)
  | .atMost => decide (n ≤ value)
  | .atLeast => decide (value ≤ n)

/-- A test on a count as it stands in a statement. -/
inductive CountTest where
  | compare (relation : Relation) (value : Placeholder)
  | between (lower upper : Placeholder)
  | not (t : CountTest)

namespace CountTest

def text (column : String) : CountTest → String
  | .compare relation value => column ++ " " ++ relation.symbol ++ " " ++ value.text
  | .between lower upper => column ++ " between " ++ lower.text ++ " and " ++ upper.text
  | .not t => "not (" ++ t.text column ++ ")"

def HasStem (stem : String) : CountTest → Prop
  | .compare _ value => value.stem = stem
  | .between lower upper => lower.stem = stem ∧ upper.stem = stem
  | .not t => t.HasStem stem

/-- The number that a placeholder stands for. -/
def number? (ps : Params) (p : Placeholder) : Option Int :=
  match ps.value? p with
  | some (.number a) => some a
  | _ => none

/-- Whether the count passes the test; none if a placeholder stands for no number. -/
def passes? (ps : Params) (n : Int) : CountTest → Option Bool
  | .compare relation value => (number? ps value).map fun a => admits relation a n
  | .between lower upper => do
    let a ← number? ps lower
    let b ← number? ps upper
    return decide (a ≤ n ∧ n ≤ b)
  | .not t => (t.passes? ps n).map (!·)

theorem hasStem_of_number? {p : Placeholder} {a : Int} (h : number? ps p = some a) :
    p.stem = ps.stem := by
  unfold number? at h
  split at h
  · rename_i hvalue
    have hsome := Option.isSome_of_eq_some hvalue
    exact (Params.value?_isSome_iff.1 hsome).1
  · cases h

theorem hasStem_of_passes? : ∀ {t : CountTest} {b : Bool}, t.passes? ps n = some b →
    t.HasStem ps.stem
  | .compare _ _, _, h => by
      obtain ⟨a, ha, -⟩ := Option.map_eq_some_iff.1 h
      exact hasStem_of_number? ha
  | .between _ _, _, h => by
      obtain ⟨a, ha, h⟩ := Option.bind_eq_some_iff.1 h
      obtain ⟨b, hb, -⟩ := Option.bind_eq_some_iff.1 h
      exact ⟨hasStem_of_number? ha, hasStem_of_number? hb⟩
  | .not t, _, h => by
      obtain ⟨b, hb, -⟩ := Option.map_eq_some_iff.1 h
      exact hasStem_of_passes? (t := t) hb

/-! ### Tests and their texts -/

theorem hasBlank_text (t : CountTest) : hasBlank (t.text column) := by
  cases t with
  | compare | between => simp [text, hasBlank]
  | not t => simp [text, hasBlank]

theorem exists_text_digit {t : CountTest} (h : ∀ u, t ≠ .not u) :
    ∃ s c, (t.text column).toList = s ++ [c] ∧ c.isDigit = true := by
  cases t with
  | compare | between =>
      obtain ⟨s, c, hs, hc⟩ := Placeholder.exists_text_digit _
      exact ⟨_, c, by rw [text, String.toList_append, hs, ← List.append_assoc], hc⟩
  | not t => exact absurd rfl (h t)

/-- No negated test has the text of another one, which ends with the number of a placeholder. -/
theorem text_ne_not {t u : CountTest} (h : ∀ u, t ≠ .not u) :
    t.text column ≠ (CountTest.not u).text column := by
  intro e
  obtain ⟨s, c, hs, hc⟩ : ∃ s c, (t.text column).toList = s ++ [c] ∧ c.isDigit = true :=
    exists_text_digit h
  have hlist := congrArg String.toList e
  have hclose : ")".toList = [')'] := by decide_cbv
  rw [hs, text, String.toList_append, hclose] at hlist
  obtain ⟨-, hlast⟩ := List.append_inj' hlist rfl
  obtain rfl : c = ')' := List.singleton_inj.1 hlast
  cases hc

theorem compare_inj {r r' : Relation} {p p' : Placeholder} (hstem : p.stem = p'.stem)
    (h : (compare r p).text column = (compare r' p').text column) :
    r = r' ∧ p = p' := by
  have hlist := congrArg String.toList h
  have hrelation : r = r' := by
    cases r <;> cases r' <;> first | rfl | simp [text, Relation.symbol] at hlist
  subst hrelation
  simp only [text, String.append_right_inj] at h
  exact ⟨rfl, Placeholder.text_inj hstem h⟩

theorem between_inj {p p' q q' : Placeholder} (hp : p.stem = p'.stem) (hq : q.stem = q'.stem)
    (h : (between p q).text column = (between p' q').text column) : p = p' ∧ q = q' := by
  have hlist := congrArg String.toList h
  simp only [text, String.toList_append, List.append_assoc, List.append_cancel_left_eq] at hlist
  have hand : ∀ r : Placeholder, ∀ c ∈ (" and ".toList ++ r.text.toList).head?,
      c.isDigit = false := by
    intro r c hc
    simp at hc
    simp [← hc]
  obtain ⟨rfl, hrest⟩ := Placeholder.text_append_inj hp (hand q) (hand q') hlist
  have hupper := String.toList_inj.1 (List.append_cancel_left hrest)
  exact ⟨rfl, Placeholder.text_inj hq hupper⟩

/-- The text of a comparison goes on with its sign, that of the other test with a word. -/
theorem compare_ne_between {r : Relation} {p q q' : Placeholder} :
    (compare r p).text column ≠ (between q q').text column := by
  intro h
  have hlist := congrArg String.toList h
  cases r <;> simp [text, Relation.symbol] at hlist

/-- Tests with the placeholders of one stem have different texts. -/
theorem text_inj {stem : String} {t u : CountTest} (ht : t.HasStem stem) (hu : u.HasStem stem)
    (h : t.text column = u.text column) : t = u := by
  induction t generalizing u with
  | compare r p =>
      cases u with
      | compare r' p' =>
          obtain ⟨rfl, rfl⟩ := compare_inj (ht.trans hu.symm) h
          rfl
      | between => exact absurd h compare_ne_between
      | not => exact absurd h (text_ne_not nofun)
  | between p q =>
      cases u with
      | compare => exact absurd h.symm compare_ne_between
      | between p' q' =>
          obtain ⟨rfl, rfl⟩ := between_inj (ht.1.trans hu.1.symm) (ht.2.trans hu.2.symm) h
          rfl
      | not => exact absurd h (text_ne_not nofun)
  | not t ih =>
      cases u with
      | compare | between => exact absurd h.symm (text_ne_not nofun)
      | not u =>
          simp only [text, String.append_left_inj, String.append_right_inj] at h
          rw [ih (u := u) ht hu h]

end CountTest

/-- The text is a test on the column, and the count passes it or not as stated. -/
def ReadsCount (ps : Params) (column : String) (n : Int) (s : String) (b : Bool) : Prop :=
  ∃ t : CountTest, t.text column = s ∧ t.passes? ps n = some b

/-- A test is read in one way only. -/
theorem readsCount_iff {t : CountTest} {b : Bool} (h : t.passes? ps n = some b) (b' : Bool) :
    ReadsCount ps column n (t.text column) b' ↔ b' = b := by
  constructor
  · rintro ⟨u, htext, hu⟩
    have hsame := CountTest.text_inj (CountTest.hasStem_of_passes? hu)
      (CountTest.hasStem_of_passes? h) htext
    rw [hsame, h] at hu
    exact (Option.some.inj hu).symm
  · rintro rfl
    exact ⟨t, rfl, h⟩

/-! ### Tests that are written -/

/-- The restriction is written as a test on the column, which the counts pass as stated. -/
def Tests (column : String) (f : Restriction Datum) (truth : Int → Bool) : Prop :=
  ∀ ps : Params, ∃ t : CountTest, (f.bind ps).1.text = t.text column ∧
    ∀ n, t.passes? (f.bind ps).2 n = some (truth n)

theorem tests_between (a b : Int) :
    Tests column (.atom (.between column (.number a) (.number b)))
      fun n => decide (a ≤ n ∧ n ≤ b) := by
  intro ps
  let p : Placeholder := ⟨ps.stem, ps.values.length⟩
  let q : Placeholder := ⟨ps.stem, (ps.values ++ [Datum.number a]).length⟩
  have hbind : Restriction.bind (.atom (.between column (.number a) (.number b))) ps =
      (.atom (.between column p q),
        { ps with values := ps.values ++ [.number a] ++ [.number b] }) := rfl
  rw [hbind]
  refine ⟨.between p q, rfl, ?_⟩
  intro n
  simp [CountTest.passes?, CountTest.number?, Params.value?, p, q]

/-- A comparison with one bound is taken together with nothing else. -/
theorem tests_compare (relation : Relation) (a : Int) :
    Tests column (.all [.atom (.compare column relation (.number a) none)])
      fun n => admits relation a n := by
  intro ps
  let p : Placeholder := ⟨ps.stem, ps.values.length⟩
  have hbind : Restriction.bind (.all [.atom (.compare column relation (.number a) none)]) ps =
      (.all [.atom (.compare column relation p none)],
        { ps with values := ps.values ++ [.number a] }) := rfl
  rw [hbind]
  refine ⟨.compare relation p, ?_, ?_⟩
  · exact conjoin_singleton (Atom.isNontrivial_text (.compare column relation p none) rfl)
  · intro n
    simp [CountTest.passes?, CountTest.number?, Params.value?, p]

/-- Some side being bounded, the counts within the bounds pass. -/
theorem tests_countsRestriction (hi : IsBounded i) :
    Tests column (countsRestriction column i) fun n => decide (HoldsCount n i) := by
  obtain ⟨lower, upper⟩ := i
  cases lower with
  | some a =>
      cases upper with
      | some b => simpa [HoldsCount, admits, countsRestriction] using tests_between a b
      | none => simpa [HoldsCount, admits, countsRestriction] using tests_compare .atLeast a
  | none =>
      cases upper with
      | some b => simpa [HoldsCount, admits, countsRestriction] using tests_compare .atMost b
      | none => simp [IsBounded] at hi

theorem Tests.signed {f : Restriction Datum} {truth : Int → Bool} (h : Tests column f truth)
    (c : Condition) : Tests column (signed c f) fun n => truth n != c.excluded := by
  intro ps
  obtain ⟨t, htext, hpasses⟩ := h ps
  unfold Clause.signed
  cases c.excluded with
  | false => exact ⟨t, htext, by simpa using hpasses⟩
  | true =>
      refine ⟨.not t, ?_, ?_⟩
      · show negate (f.bind ps).1.text = _
        rw [htext, negate_of_hasBlank t.hasBlank_text]
        rfl
      · intro n
        show (t.passes? (f.bind ps).2 n).map _ = _
        rw [hpasses]
        simp

/-- A counter expression without a newline, with runs of digits below the limit, has bounds if and
only if it is a spelling of a comparison with a number or of a range of numbers. The test that a
condition with these bounds puts on a column is read in one way, and selects the counts that are
stated, or all others if the condition is excluded. -/
theorem selects_counts {expr : List Char} (hline : '\n' ∉ expr) (hshort : HasShortRuns expr) :
    (∃ r, countTexts? expr = .ok r) ∧
    ((∃ bounds, countTexts? expr = .ok (some bounds)) ↔ ∃ st, Spells IsRun expr st) ∧
    ∀ lower upper st, countTexts? expr = .ok (some (lower, upper)) → Spells IsRun expr st →
      ∀ (excluded : Bool) (operator : Operator) (column : String) (ps : Params),
        ∃ f, countRestriction column ⟨excluded, operator, [lower, upper]⟩ = .ok f ∧
          ∀ (n : Int) (b : Bool), ReadsCount (f.bind ps).2 column n (f.bind ps).1.text b ↔
            (b = true ↔ (st.AdmitsCount n ↔ excluded = false)) := by
  have hdrop : Text.dropFinalNewline expr = expr := Text.dropFinalNewline_of_not_mem hline
  obtain ⟨hok, hsome⟩ := countTexts?_isSome_iff (hdrop.symm ▸ hshort)
  rw [hdrop] at hsome
  refine ⟨hok, hsome, ?_⟩
  intro lower upper st hbounds hst excluded operator column ps
  obtain ⟨found, hfound, hbounds⟩ := bind_eq_ok.1 hbounds
  rw [← hdrop] at hst
  rw [counts?_of_spells hst] at hfound
  obtain ⟨i, hi, rfl⟩ := map_eq_ok.1 hfound
  obtain ⟨l, hl, hbounds⟩ := bind_eq_ok.1 hbounds
  obtain ⟨u, hu, hbounds⟩ := bind_eq_ok.1 hbounds
  cases hbounds
  refine ⟨_, countRestriction_countTexts hl hu excluded operator, ?_⟩
  intro n b
  have hcounts : counts? expr = .ok (some i) := by
    rw [counts?_of_spells hst, hi]
    rfl
  have htests : Tests column (countsRestriction column i) fun n => decide (HoldsCount n i) :=
    tests_countsRestriction (counts?_bounds hcounts).1
  obtain ⟨t, htext, hpasses⟩ := htests.signed ⟨excluded, operator, [lower, upper]⟩ ps
  rw [htext, readsCount_iff (hpasses n), Stated.admitsCount_iff hi]
  cases excluded <;> cases b <;> simp

/-- What is not below zero has a test, although nothing is below zero. -/
theorem selects_counts_not_below_zero :
    ∃ f, countRestriction "likes" ⟨true, .commentCount, ["", "-1"]⟩ = .ok f ∧
      ∀ (n : Int) (b : Bool), ReadsCount (f.bind (.empty "p")).2 "likes" n
        (f.bind (.empty "p")).1.text b ↔ (b = true ↔ 0 ≤ n) := by
  have hshort : HasShortRuns ['<', '0'] := by
    intro run hrun hdigits
    have hlength : run.length ≤ 2 := hrun.length_le
    unfold digitLimit
    omega
  have hzero : IsRun ['0'] := ⟨by simp, by decide +kernel⟩
  have hbelow : ['<'] ∈ Comparison.below.spellings := List.mem_singleton_self _
  have hspells : Spells IsRun ['<', '0'] (.comparison .below ['0']) := .comparison hbelow hzero
  have hbounds : countTexts? ['<', '0'] = .ok (some ("", "-1")) := by decide +kernel
  have hvalue : runValue ['0'] = 0 := by decide +kernel
  obtain ⟨-, -, hselects⟩ := selects_counts (by decide) hshort
  obtain ⟨f, hf, hreads⟩ :=
    hselects "" "-1" _ hbounds hspells true .commentCount "likes" (.empty "p")
  refine ⟨f, hf, ?_⟩
  intro n b
  rw [hreads, Stated.AdmitsCount, Comparison.AdmitsCount, hvalue]
  simp

end Clause

end PostSearch
