import PostSearch.Interval.Counter
import PostSearch.Proofs.Except
import PostSearch.Proofs.Interval.Expressions
import PostSearch.Proofs.Text.Numeral

/-! # Reading counters

Counter expressions are the spellings of intervals whose values are runs of decimal digits
(`counts?_of_spells`, `counts?_of_not_spells`). Their bounds are read as numbers and written again,
and numerals have limits both ways: an expression has no bounds exactly when it states a value of
more digits than the limit, or what is above the greatest number within the limit
(`countTexts?_isOk`). -/

namespace PostSearch.Interval

open Numeral Unicode

def IsRun (s : List Char) : Prop :=
  s ≠ [] ∧ ∀ c ∈ s, isDigit c = true

variable {s expr : List Char} {st : Stated}

theorem digits?_of_isRun (h : IsRun s) : digits? s = some s := by
  unfold digits?
  rw [if_pos ⟨h.1, List.all_eq_true.2 h.2⟩]

theorem digits?_eq_some {t : List Char} : digits? s = some t ↔ IsRun s ∧ t = s := by
  constructor
  · intro h
    unfold digits? at h
    split at h
    · rename_i hs
      cases h
      exact ⟨⟨hs.1, List.all_eq_true.1 hs.2⟩, rfl⟩
    · cases h
  · rintro ⟨h, rfl⟩
    exact digits?_of_isRun h

theorem IsRun.not_mem (h : IsRun s) {d : Char} (hd : d ∈ ['=', '>', '<', '.', '*']) : d ∉ s := by
  have hmarks : ∀ d ∈ ['=', '>', '<', '.', '*'], isDigit d = false := by decide +kernel
  intro hmem
  have := h.2 d hmem
  rw [hmarks d hd] at this
  cases this

theorem readSide?_digits {side : Option (List Char)} :
    readSide? digits? s = some side ↔ s = sideText side ∧ ∀ a ∈ side, IsRun a := by
  have hstar : ¬ IsRun ['*'] := fun h => h.not_mem (d := '*') (by simp) (by simp)
  unfold readSide?
  constructor
  · intro h
    split at h
    · rename_i hs
      cases h
      exact ⟨hs, nofun⟩
    · obtain ⟨t, ht, rfl⟩ := Option.map_eq_some_iff.1 h
      obtain ⟨hrun, rfl⟩ := digits?_eq_some.1 ht
      exact ⟨rfl, fun a ha => Option.some.inj ha ▸ hrun⟩
  · rintro ⟨rfl, hrun⟩
    cases side with
    | none => rfl
    | some a =>
        have ha : IsRun a := hrun a rfl
        have hne : a ≠ ['*'] := by
          rintro rfl
          exact hstar ha
        rw [sideText, Option.getD_some, if_neg hne, digits?_of_isRun ha]
        rfl

/-! ### What is read -/

def Stated.counts : Stated → Except NumeralError (Interval Int)
  | .comparison k value => (readDigits value).map fun n : Nat => k.counts n
  | .range lower upper => return ⟨← readBound lower, ← readBound upper⟩

theorem counts?_of_spells (h : Spells IsRun (Text.dropFinalNewline expr) st) :
    counts? expr = st.counts.map some := by
  unfold counts?
  generalize he : Text.dropFinalNewline expr = e at h
  cases h with
  | @comparison k sign value hs hv =>
      have hhead : ∀ c ∈ value.head?, c ∉ ['=', '>', '<'] := by
        intro c hc hmem
        exact hv.not_mem (List.mem_append_left ['.', '*'] hmem) (List.mem_of_head? hc)
      simp only [takeComparison_append hs hhead, digits?_of_isRun hv, Stated.counts]
      cases readDigits value <;> rfl
  | @range lower upper hl hu hsome =>
      have hvalue : digits? (takeComparison
          (sideText lower ++ '.' :: '.' :: sideText upper)).2 = none := by
        rw [Option.eq_none_iff_forall_ne_some]
        intro t ht
        obtain ⟨hrun, -⟩ := digits?_eq_some.1 ht
        exact hrun.not_mem (d := '.') (by simp) (dot_mem_takeComparison (by simp))
      have hlower := readSide?_digits.2 ⟨rfl, hl⟩
      have hupper := readSide?_digits.2 ⟨rfl, hu⟩
      have hdot : '.' ∉ sideText lower := by
        cases lower with
        | none => decide
        | some a => exact (hl a rfl).not_mem (by simp)
      have hrange := readRange?_eq_some.2 ⟨_, _, ⟨rfl, hdot⟩, hlower, hupper, hsome⟩
      simp only [hvalue, hrange, Stated.counts]
      cases readBound lower with
      | error e => rfl
      | ok l => cases readBound upper <;> rfl

theorem counts?_of_not_spells (h : ∀ st, ¬ Spells IsRun (Text.dropFinalNewline expr) st) :
    counts? expr = .ok none := by
  unfold counts?
  generalize Text.dropFinalNewline expr = e at h
  dsimp only
  split
  · rename_i value hvalue
    obtain ⟨hrun, rfl⟩ := digits?_eq_some.1 hvalue
    obtain ⟨sign, hs, he⟩ := takeComparison_spec e
    have hspells := Spells.comparison hs hrun
    rw [← he] at hspells
    exact absurd hspells (h _)
  · split
    · rename_i lower upper hrange
      obtain ⟨l, u, ⟨rfl, -⟩, hl, hu, hsome⟩ := readRange?_eq_some.1 hrange
      obtain ⟨rfl, hlower⟩ := readSide?_digits.1 hl
      obtain ⟨rfl, hupper⟩ := readSide?_digits.1 hu
      exact absurd (Spells.range hlower hupper hsome) (h _)
    · rfl

/-! ### Limits of numerals -/

/-- Some bound of what is stated has no numeral within the limit: a value has more digits already,
or there are no numbers above it with as many. -/
def Stated.IsOverlong : Stated → Prop
  | .comparison k value => digitLimit < value.length ∨
      (k = .above ∧ value.length = digitLimit ∧ ∀ c ∈ value, digitValue? c = some 9)
  | .range lower upper => ∃ a, (lower = some a ∨ upper = some a) ∧ digitLimit < a.length

theorem readDigits_isOk : (∃ n, readDigits s = .ok n) ↔ s.length ≤ digitLimit :=
  ⟨fun ⟨_, h⟩ => (readDigits_eq_ok.1 h).1, fun h => ⟨_, readDigits_eq_ok.2 ⟨h, rfl⟩⟩⟩

theorem countText_isOk {bound : Option Int} :
    (∃ t, countText bound = .ok t) ↔ ∀ n ∈ bound, n.natAbs < 10 ^ digitLimit := by
  cases bound with
  | none => simp [countText]
  | some n =>
      simp only [countText, map_eq_ok, Option.mem_some_iff, forall_eq']
      constructor
      · rintro ⟨_, t, ht, -⟩
        exact (showInt_eq_ok.1 ht).1
      · exact fun h => ⟨_, _, showInt_eq_ok.2 ⟨h, rfl⟩, rfl⟩

theorem readBound_some :
    readBound (some s) = (readDigits s).map fun n : Nat => some (n : Int) := by
  simp only [readBound]
  cases readDigits s <;> rfl

theorem readBound_isOk {side : Option (List Char)} :
    (∃ b, readBound side = .ok b) ↔ ∀ a ∈ side, a.length ≤ digitLimit := by
  cases side with
  | none => simp [readBound]
  | some a =>
      simp only [readBound_some, map_eq_ok, Option.mem_some_iff, forall_eq', ← readDigits_isOk]
      exact ⟨fun ⟨_, n, hn, _⟩ => ⟨n, hn⟩, fun ⟨n, hn⟩ => ⟨_, n, hn, rfl⟩⟩

/-- What has been read can be written again. -/
theorem countText_readBound {side : Option (List Char)} {b : Option Int}
    (h : readBound side = .ok b) : ∃ t, countText b = .ok t := by
  refine countText_isOk.2 fun n hn => ?_
  cases side with
  | none =>
      cases h
      cases hn
  | some a =>
      rw [readBound_some] at h
      obtain ⟨m, hm, rfl⟩ := map_eq_ok.1 h
      cases hn
      have hlt := lt_of_readDigits hm
      have hle : 10 ^ a.length ≤ 10 ^ digitLimit :=
        Nat.pow_le_pow_right (by decide) (readDigits_eq_ok.1 hm).1
      rw [Int.natAbs_natCast]
      omega

/-- A number has bounds unless it is the greatest one within the limit and what is above is asked
for. -/
theorem countText_counts {k : Comparison} {n : Nat} (hs : IsRun s) (hn : readDigits s = .ok n) :
    ((∃ t, countText (k.counts n).lower = .ok t) ∧ ∃ t, countText (k.counts n).upper = .ok t) ↔
      ¬ (k = .above ∧ s.length = digitLimit ∧ ∀ c ∈ s, digitValue? c = some 9) := by
  have hlt := lt_of_readDigits hn
  have hlength := (readDigits_eq_ok.1 hn).1
  have hle : 10 ^ s.length ≤ 10 ^ digitLimit := Nat.pow_le_pow_right (by decide) hlength
  have hpos : 0 < 10 ^ digitLimit := Nat.pow_pos (by decide)
  have hn' : (n : Int).natAbs < 10 ^ digitLimit := by
    rw [Int.natAbs_natCast]
    omega
  simp only [countText_isOk]
  cases k
  case above =>
    -- The bound has one digit more than the value only if the value is all nines.
    have habs : ((n : Int) + 1).natAbs = n + 1 := by omega
    have hnines := succ_readDigits_iff hs.2 hn
    have hsucc : n + 1 < 10 ^ digitLimit ↔
        ¬ (s.length = digitLimit ∧ n + 1 = 10 ^ s.length) := by
      constructor
      · rintro h ⟨hl, he⟩
        rw [← hl] at h
        omega
      · intro h
        by_contra hge
        have he : n + 1 = 10 ^ s.length := by omega
        have hpow : 10 ^ s.length = 10 ^ digitLimit := by omega
        exact h ⟨Nat.pow_right_injective (le_refl 2 |>.trans (by decide)) hpow, he⟩
    simpa [Comparison.counts, habs, hnines] using hsucc
  case below =>
    have habs : ((n : Int) - 1).natAbs < 10 ^ digitLimit := by
      have h1 : 1 < 10 ^ digitLimit := Nat.one_lt_pow (by decide) (by decide)
      omega
    simpa [Comparison.counts] using habs
  all_goals simpa [Comparison.counts] using hn'

/-- What is stated has bounds as texts unless it is overlong. -/
theorem Stated.bounds_iff {text : List Char} (h : Spells IsRun text st) :
    (∃ i, st.counts = .ok i ∧ (∃ l, countText i.lower = .ok l) ∧ ∃ u, countText i.upper = .ok u) ↔
      ¬ st.IsOverlong := by
  cases h with
  | @comparison k sign value hs hv =>
      simp only [counts, IsOverlong, not_or, not_lt]
      constructor
      · rintro ⟨i, hi, hbounds⟩
        obtain ⟨n, hn, rfl⟩ := map_eq_ok.1 hi
        exact ⟨readDigits_isOk.1 ⟨n, hn⟩, (countText_counts hv hn).1 hbounds⟩
      · rintro ⟨hlength, habove⟩
        obtain ⟨n, hn⟩ := readDigits_isOk.2 hlength
        exact ⟨_, map_eq_ok.2 ⟨n, hn, rfl⟩, (countText_counts hv hn).2 habove⟩
  | @range lower upper hl hu hsome =>
      constructor
      · rintro ⟨i, hi, -⟩ ⟨a, hside, hlong⟩
        obtain ⟨l, hl, hi⟩ := bind_eq_ok.1 hi
        obtain ⟨u, hu, -⟩ := bind_eq_ok.1 hi
        have hlength : a.length ≤ digitLimit := by
          rcases hside with rfl | rfl
          · exact readBound_isOk.1 ⟨l, hl⟩ a rfl
          · exact readBound_isOk.1 ⟨u, hu⟩ a rfl
        omega
      · intro h
        have hlength : ∀ a, lower = some a ∨ upper = some a → a.length ≤ digitLimit :=
          fun a ha => not_lt.1 fun hlong => h ⟨a, ha, hlong⟩
        obtain ⟨l, hl⟩ := readBound_isOk.2 fun a ha => hlength a (Or.inl ha)
        obtain ⟨u, hu⟩ := readBound_isOk.2 fun a ha => hlength a (Or.inr ha)
        exact ⟨⟨l, u⟩, bind_eq_ok.2 ⟨l, hl, bind_eq_ok.2 ⟨u, hu, rfl⟩⟩, countText_readBound hl,
          countText_readBound hu⟩

/-- An expression has bounds as texts, or is none, if what it states is not overlong. -/
theorem countTexts?_isOk : (∃ r, countTexts? expr = .ok r) ↔
    ∀ st, Spells IsRun (Text.dropFinalNewline expr) st → ¬ st.IsOverlong := by
  unfold countTexts?
  constructor
  · rintro ⟨r, h⟩ st hst
    obtain ⟨found, hfound, h⟩ := bind_eq_ok.1 h
    rw [counts?_of_spells hst] at hfound
    obtain ⟨i, hi, rfl⟩ := map_eq_ok.1 hfound
    obtain ⟨l, hl, h⟩ := bind_eq_ok.1 h
    obtain ⟨u, hu, -⟩ := bind_eq_ok.1 h
    exact (Stated.bounds_iff hst).1 ⟨i, hi, ⟨l, hl⟩, ⟨u, hu⟩⟩
  · intro h
    by_cases hspells : ∃ st, Spells IsRun (Text.dropFinalNewline expr) st
    · obtain ⟨st, hst⟩ := hspells
      obtain ⟨i, hi, ⟨l, hl⟩, ⟨u, hu⟩⟩ := (Stated.bounds_iff hst).2 (h st hst)
      refine ⟨some (l, u), bind_eq_ok.2 ⟨some i, ?_, ?_⟩⟩
      · rw [counts?_of_spells hst, hi]
        rfl
      · exact bind_eq_ok.2 ⟨l, hl, bind_eq_ok.2 ⟨u, hu, rfl⟩⟩
    · exact ⟨none, bind_eq_ok.2 ⟨none, counts?_of_not_spells (not_exists.1 hspells), rfl⟩⟩

/-! ### Bounds as texts -/

/-- The text is the numeral of a number of things, or of minus one, which is what lies below zero. -/
def IsCountText (text : String) : Prop :=
  ∃ n : Int, -1 ≤ n ∧ n.natAbs < 10 ^ digitLimit ∧ text = toString n

theorem ofList_intDigits (n : Int) : String.ofList (intDigits n) = toString n := by
  cases n with
  | ofNat n => exact Nat.repr_eq_ofList_toDigits.symm
  | negSucc n =>
      have hsign : Int.negSucc n < 0 := Int.negSucc_lt_zero n
      rw [intDigits, if_pos hsign, Int.toString_eq_repr, Int.repr, Nat.repr_eq_ofList_toDigits]
      exact String.ofList_cons

theorem toString_ne_empty (n : Int) : toString n ≠ "" := by
  rw [← ofList_intDigits, ne_eq, String.ofList_eq_empty_iff, intDigits]
  split
  · exact List.cons_ne_nil _ _
  · exact Nat.toDigits_ne_nil

theorem countText_spec {bound : Option Int} {text : String} (h : countText bound = .ok text)
    (hbound : ∀ n ∈ bound, -1 ≤ n) :
    (bound.isSome → text ≠ "") ∧ (text = "" ∨ IsCountText text) := by
  cases bound with
  | none =>
      cases h
      exact ⟨nofun, Or.inl rfl⟩
  | some n =>
      obtain ⟨t, ht, rfl⟩ := map_eq_ok.1 h
      obtain ⟨hlt, rfl⟩ := showInt_eq_ok.1 ht
      rw [ofList_intDigits]
      exact ⟨fun _ => toString_ne_empty n, Or.inr ⟨n, hbound n rfl, hlt, rfl⟩⟩

/-- Something is said of the count, and nothing below minus one. -/
theorem counts?_bounds {i : Interval Int} (h : counts? expr = .ok (some i)) :
    IsBounded i ∧ (∀ n ∈ i.lower, -1 ≤ n) ∧ ∀ n ∈ i.upper, -1 ≤ n := by
  have hread : ∀ {side : Option (List Char)} {b : Option Int}, readBound side = .ok b →
      b.isSome = side.isSome ∧ ∀ n ∈ b, -1 ≤ n := by
    intro side b hb
    cases side with
    | none =>
        cases hb
        exact ⟨rfl, nofun⟩
    | some a =>
        rw [readBound_some] at hb
        obtain ⟨m, -, rfl⟩ := map_eq_ok.1 hb
        refine ⟨rfl, fun n hn => ?_⟩
        cases hn
        omega
  by_cases hspells : ∃ st, Spells IsRun (Text.dropFinalNewline expr) st
  · obtain ⟨st, hst⟩ := hspells
    rw [counts?_of_spells hst] at h
    obtain ⟨j, hj, e⟩ := map_eq_ok.1 h
    cases e
    generalize Text.dropFinalNewline expr = text at hst
    cases hst with
    | @comparison k sign value hs hv =>
        obtain ⟨n, -, rfl⟩ := map_eq_ok.1 hj
        have hn : (-1 : Int) ≤ n := by omega
        have hbelow : (-1 : Int) ≤ n - 1 := by omega
        have habove : (-1 : Int) ≤ n + 1 := by omega
        cases k <;> simp [Comparison.counts, IsBounded, hn, hbelow, habove]
    | range hl hu hsome =>
        obtain ⟨l, hl, hj⟩ := bind_eq_ok.1 hj
        obtain ⟨u, hu, hj⟩ := bind_eq_ok.1 hj
        cases hj
        obtain ⟨hlower, hl⟩ := hread hl
        obtain ⟨hupper, hu⟩ := hread hu
        rw [← hlower, ← hupper] at hsome
        exact ⟨hsome, hl, hu⟩
  · rw [counts?_of_not_spells (not_exists.1 hspells)] at h
    cases h

theorem areBounds_countTexts {l u : String} (h : countTexts? expr = .ok (some (l, u))) :
    AreBounds IsCountText [l, u] := by
  obtain ⟨i, hi, h⟩ := bind_eq_ok.1 h
  cases i with
  | none => cases h
  | some i =>
      obtain ⟨l', hl, h⟩ := bind_eq_ok.1 h
      obtain ⟨u', hu, h⟩ := bind_eq_ok.1 h
      cases h
      obtain ⟨hbounded, hlower, hupper⟩ := counts?_bounds hi
      obtain ⟨hlne, hl⟩ := countText_spec hl hlower
      obtain ⟨hune, hu⟩ := countText_spec hu hupper
      exact ⟨l, u, rfl, hbounded.imp hlne hune, hl, hu⟩

end PostSearch.Interval
