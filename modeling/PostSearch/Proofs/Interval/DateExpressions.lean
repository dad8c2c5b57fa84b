import Mathlib.Data.String.Basic
import PostSearch.Proofs.Calendar
import PostSearch.Proofs.Interval.Days
import PostSearch.Proofs.Text.Split

/-! # What date expressions mean

A date is written as four digits, then two for the month and two for the day as far as they are
given (`WritesDate`). Date expressions are the spellings of intervals whose values are dates within
the calendar (`days?_of_spells`, `days?_of_not_spells`), and the days between their bounds are the
days that compare with those dates as stated.

Main statement: `dayTexts?_days`, where days and bounds are compared as texts. -/

namespace PostSearch.Interval

open Text Unicode

variable {expr s text : List Char} {st : Stated} {date : PartialDate} {p : Period} {x : Date}
  {k : Comparison}

/-! ### Written dates -/

/-- So many digits, of whatever scripts, write the number. -/
def WritesNumber (width : Nat) (s : List Char) (n : Nat) : Prop :=
  s.length = width ∧ (∀ c ∈ s, isDigit c = true) ∧
    n = Numeral.ofDigits 10 (s.filterMap digitValue?)

/-- The text is the date, written as far as it is given. -/
inductive WritesDate : List Char → PartialDate → Prop
  | year {y : List Char} {n : Nat} (hy : WritesNumber 4 y n) : WritesDate y (.year n)
  | month {y m : List Char} {n k : Nat} (hy : WritesNumber 4 y n) (hm : WritesNumber 2 m k) :
      WritesDate (y ++ '-' :: m) (.month n k)
  | day {y m d : List Char} {n k j : Nat} (hy : WritesNumber 4 y n) (hm : WritesNumber 2 m k)
      (hd : WritesNumber 2 d j) : WritesDate (y ++ '-' :: (m ++ '-' :: d)) (.day n k j)

/-- The text is a date, and its days end before the calendar does. -/
def IsDate (s : List Char) : Prop :=
  ∃ date, WritesDate s date ∧ date.IsInside

theorem WritesNumber.not_mem {width n : Nat} (h : WritesNumber width s n) {c : Char}
    (hc : isDigit c = false) : c ∉ s := fun hmem => by
  rw [h.2.1 c hmem] at hc
  cases hc

theorem WritesDate.mem (h : WritesDate s date) {c : Char} (hc : c ∈ s) :
    isDigit c = true ∨ c = '-' := by
  cases h with
  | year hy => exact Or.inl (hy.2.1 c hc)
  | month hy hm =>
      simp only [List.mem_append, List.mem_cons] at hc
      rcases hc with hc | hc | hc
      · exact Or.inl (hy.2.1 c hc)
      · exact Or.inr hc
      · exact Or.inl (hm.2.1 c hc)
  | day hy hm hd =>
      simp only [List.mem_append, List.mem_cons] at hc
      rcases hc with hc | hc | hc | hc | hc
      · exact Or.inl (hy.2.1 c hc)
      · exact Or.inr hc
      · exact Or.inl (hm.2.1 c hc)
      · exact Or.inr hc
      · exact Or.inl (hd.2.1 c hc)

theorem period?_of_writes (h : WritesDate s date) : period? s = date.period? := by
  have hyphen : isDigit '-' = false := by decide +kernel
  unfold period?
  cases h with
  | year hy =>
      rw [splitAt_of_not_mem (hy.not_mem hyphen)]
      obtain ⟨hlength, hdigits, rfl⟩ := hy
      simp [hlength, List.all_eq_true.2 hdigits, PartialDate.period?]
  | month hy hm =>
      rw [splitAt_append (hy.not_mem hyphen), splitAt_of_not_mem (hm.not_mem hyphen)]
      obtain ⟨hlength, hdigits, rfl⟩ := hy
      obtain ⟨hlength', hdigits', rfl⟩ := hm
      simp [hlength, hlength', List.all_eq_true.2 hdigits, List.all_eq_true.2 hdigits',
        PartialDate.period?]
  | day hy hm hd =>
      rw [splitAt_append (hy.not_mem hyphen), splitAt_append (hm.not_mem hyphen),
        splitAt_of_not_mem (hd.not_mem hyphen)]
      obtain ⟨hlength, hdigits, rfl⟩ := hy
      obtain ⟨hlength', hdigits', rfl⟩ := hm
      obtain ⟨hlength'', hdigits'', rfl⟩ := hd
      simp [hlength, hlength', hlength'', List.all_eq_true.2 hdigits, List.all_eq_true.2 hdigits',
        List.all_eq_true.2 hdigits'', PartialDate.period?]

theorem exists_writes_of_period? (h : period? s = some p) : ∃ date, WritesDate s date := by
  have hs := intercalate_splitAt '-' s
  unfold period? at h
  dsimp only at h
  split at h
  · rename_i hall
    have hdigits : ∀ g ∈ splitAt '-' s, ∀ c ∈ g, isDigit c = true := fun g hg =>
      List.all_eq_true.1 (List.all_eq_true.1 hall g hg)
    generalize splitAt '-' s = groups at *
    split at h
    · rename_i y
      split at h
      · rename_i hlength
        obtain rfl : y = s := by simpa using hs
        exact ⟨_, .year ⟨hlength, hdigits y (by simp), rfl⟩⟩
      · cases h
    · rename_i y m
      split at h
      · rename_i hlength
        obtain rfl : y ++ '-' :: m = s := by simpa [List.intercalate_cons_cons] using hs
        exact ⟨_, .month ⟨hlength.1, hdigits y (by simp), rfl⟩
          ⟨hlength.2, hdigits m (by simp), rfl⟩⟩
      · cases h
    · rename_i y m d
      split at h
      · rename_i hlength
        obtain rfl : y ++ '-' :: (m ++ '-' :: d) = s := by
          simpa [List.intercalate_cons_cons] using hs
        exact ⟨_, .day ⟨hlength.1, hdigits y (by simp), rfl⟩
          ⟨hlength.2.1, hdigits m (by simp), rfl⟩ ⟨hlength.2.2, hdigits d (by simp), rfl⟩⟩
      · cases h
    · cases h
  · cases h

theorem period?_isSome : (period? s).isSome ↔ IsDate s := by
  constructor
  · intro h
    obtain ⟨p, hp⟩ := Option.isSome_iff_exists.1 h
    obtain ⟨date, hdate⟩ := exists_writes_of_period? hp
    rw [period?_of_writes hdate] at h
    exact ⟨date, hdate, PartialDate.period?_isSome.1 h⟩
  · rintro ⟨date, hdate, hinside⟩
    rw [period?_of_writes hdate]
    exact PartialDate.period?_isSome.2 hinside

/-! ### What is read -/

theorem IsDate.not_mem (h : IsDate s) {c : Char} (hc : isDigit c = false) (hne : c ≠ '-') :
    c ∉ s := by
  obtain ⟨date, hdate, -⟩ := h
  intro hmem
  rcases hdate.mem hmem with hdigit | rfl
  · rw [hdigit] at hc
    cases hc
  · exact hne rfl

theorem IsDate.mark_not_mem (h : IsDate s) {c : Char} (hc : c ∈ ['=', '>', '<', '.', '*', '\n']) :
    c ∉ s := by
  have hmarks : ∀ c ∈ ['=', '>', '<', '.', '*', '\n'], isDigit c = false ∧ c ≠ '-' := by
    decide +kernel
  exact h.not_mem (hmarks c hc).1 (hmarks c hc).2

def Stated.days : Stated → Option (Interval Date)
  | .comparison k value => (period? value).map fun p => k.days p
  | .range lower upper =>
      some ⟨(lower.bind period?).map Period.first, (upper.bind period?).map Period.next⟩

theorem readSide?_dates {side : Option (List Char)} (h : ∀ a ∈ side, IsDate a) :
    readSide? period? (sideText side) = some (side.bind period?) ∧
      (side.bind period?).isSome = side.isSome := by
  cases side with
  | none => exact ⟨rfl, rfl⟩
  | some a =>
      have ha : IsDate a := h a rfl
      have hne : a ≠ ['*'] := by
        rintro rfl
        exact ha.mark_not_mem (c := '*') (by simp) (by simp)
      obtain ⟨p, hp⟩ := Option.isSome_iff_exists.1 (period?_isSome.2 ha)
      simp [readSide?, sideText, hne, hp]

theorem days?_of_spells (h : Spells IsDate (dropFinalNewline expr) st) :
    days? expr = st.days ∧ st.days.isSome := by
  unfold days?
  generalize dropFinalNewline expr = e at h
  cases h with
  | @comparison k sign value hs hv =>
      have hhead : ∀ c ∈ value.head?, c ∉ ['=', '>', '<'] := by
        intro c hc hmem
        exact hv.mark_not_mem (List.mem_append_left ['.', '*', '\n'] hmem) (List.mem_of_head? hc)
      obtain ⟨p, hp⟩ := Option.isSome_iff_exists.1 (period?_isSome.2 hv)
      simp only [takeComparison_append hs hhead, hp, Stated.days, Option.map_some,
        Option.isSome_some, and_self]
  | @range lower upper hl hu hsome =>
      have hvalue : period? (takeComparison
          (sideText lower ++ '.' :: '.' :: sideText upper)).2 = none := by
        rw [← Option.not_isSome_iff_eq_none, period?_isSome]
        intro hdate
        exact hdate.mark_not_mem (c := '.') (by simp) (dot_mem_takeComparison (by simp))
      obtain ⟨hlower, hl'⟩ := readSide?_dates hl
      obtain ⟨hupper, hu'⟩ := readSide?_dates hu
      have hdot : '.' ∉ sideText lower := by
        cases lower with
        | none => decide
        | some a => exact (hl a rfl).mark_not_mem (by simp)
      rw [← hl', ← hu'] at hsome
      have hrange := readRange?_eq_some.2 ⟨_, _, ⟨rfl, hdot⟩, hlower, hupper, hsome⟩
      simp only [hvalue, hrange, Stated.days, Option.map_some, Option.isSome_some, and_self]

theorem exists_spells_of_days? {i : Interval Date} (h : days? expr = some i) :
    ∃ st, Spells IsDate (dropFinalNewline expr) st := by
  unfold days? at h
  generalize dropFinalNewline expr = e at h
  dsimp only at h
  split at h
  · rename_i p hp
    obtain ⟨sign, hs, he⟩ := takeComparison_spec e
    have hdate := period?_isSome.1 (Option.isSome_of_eq_some hp)
    have hspells := Spells.comparison hs hdate
    rw [← he] at hspells
    exact ⟨_, hspells⟩
  · have hside : ∀ {s : List Char} {side : Option Period}, readSide? period? s = some side →
        ∃ text, s = sideText text ∧ (∀ a ∈ text, IsDate a) ∧ text.isSome = side.isSome := by
      intro s side hs
      unfold readSide? at hs
      split at hs
      · rename_i hstar
        cases hs
        exact ⟨none, hstar, nofun, rfl⟩
      · obtain ⟨p, hp, rfl⟩ := Option.map_eq_some_iff.1 hs
        refine ⟨some s, rfl, fun a ha => ?_, rfl⟩
        obtain rfl := Option.some.inj ha
        exact period?_isSome.1 (Option.isSome_of_eq_some hp)
    obtain ⟨⟨lower, upper⟩, hrange, -⟩ := Option.map_eq_some_iff.1 h
    obtain ⟨l, u, ⟨rfl, -⟩, hl, hu, hsome⟩ := readRange?_eq_some.1 hrange
    obtain ⟨lower, rfl, hlower, hl⟩ := hside hl
    obtain ⟨upper, rfl, hupper, hu⟩ := hside hu
    rw [← hl, ← hu] at hsome
    exact ⟨_, Spells.range hlower hupper hsome⟩

/-! ### Days that are stated -/

/-- The day compares with those of the date as stated. -/
def Comparison.Admits (date : PartialDate) (x : Date) : Comparison → Prop
  | .equal => date.Covers x
  | .below => date.Follows x
  | .above => date.Precedes x
  | .atMost => date.Follows x ∨ date.Covers x
  | .atLeast => date.Covers x ∨ date.Precedes x

/-- The day compares as stated with those of the date that the text writes. -/
def Comparison.AdmitsText (k : Comparison) (value : List Char) (x : Date) : Prop :=
  ∃ date, WritesDate value date ∧ k.Admits date x

/-- The day is one of those that are stated. -/
def Stated.Admits (x : Date) : Stated → Prop
  | .comparison k value => k.AdmitsText value x
  | .range lower upper => (∀ a ∈ lower, Comparison.atLeast.AdmitsText a x) ∧
      ∀ b ∈ upper, Comparison.atMost.AdmitsText b x

/-- The day is within half-open bounds. -/
def IsWithin (x : Date) (i : Interval Date) : Prop :=
  (∀ d ∈ i.lower, d ≤ x) ∧ ∀ d ∈ i.upper, x < d

theorem Comparison.admits_iff (h : date.period? = some p) (hx : x.Exists) :
    k.Admits date x ↔ IsWithin x (k.days p) := by
  have hperiod := PartialDate.first_lt_next h
  cases k <;> simp only [Admits, days, IsWithin, PartialDate.covers_iff h hx,
    PartialDate.follows_iff h, PartialDate.precedes_iff h hx, Option.mem_some_iff, forall_eq',
    Option.not_mem_none, false_imp_iff, implies_true, true_and, and_true]
  case atMost =>
    constructor
    · rintro (hlt | ⟨-, hlt⟩)
      · exact hlt.trans hperiod
      · exact hlt
    · intro hlt
      exact (lt_or_ge x p.first).imp_right fun hle => ⟨hle, hlt⟩
  case atLeast =>
    constructor
    · rintro (⟨hle, -⟩ | hle)
      · exact hle
      · exact hperiod.le.trans hle
    · intro hle
      exact (lt_or_ge x p.next).imp_left fun hlt => ⟨hle, hlt⟩

theorem Comparison.admitsText_iff (h : period? s = some p) (hx : x.Exists) :
    k.AdmitsText s x ↔ IsWithin x (k.days p) := by
  constructor
  · rintro ⟨date, hdate, hadmits⟩
    rw [period?_of_writes hdate] at h
    exact (admits_iff h hx).1 hadmits
  · intro hwithin
    obtain ⟨date, hdate⟩ := exists_writes_of_period? h
    rw [period?_of_writes hdate] at h
    exact ⟨date, hdate, (admits_iff h hx).2 hwithin⟩

/-- The days that are stated are those within the bounds. -/
theorem Stated.admits_iff {i : Interval Date} (hst : Spells IsDate text st) (h : st.days = some i)
    (hx : x.Exists) : st.Admits x ↔ IsWithin x i := by
  cases hst with
  | comparison hs hv =>
      obtain ⟨p, hp, rfl⟩ := Option.map_eq_some_iff.1 h
      exact Comparison.admitsText_iff hp hx
  | @range lower upper hl hu hsome =>
      cases h
      refine and_congr ?_ ?_
      · cases lower with
        | none => simp
        | some a =>
            obtain ⟨p, hp⟩ := Option.isSome_iff_exists.1 (period?_isSome.2 (hl a rfl))
            simp [Comparison.admitsText_iff hp hx, Comparison.days, IsWithin, hp]
      · cases upper with
        | none => simp
        | some b =>
            obtain ⟨p, hp⟩ := Option.isSome_iff_exists.1 (period?_isSome.2 (hu b rfl))
            simp [Comparison.admitsText_iff hp hx, Comparison.days, IsWithin, hp]

/-! ### Bounds as texts -/

/-- The text is within half-open bounds, the empty text being none. -/
def IsBetween (x : String) (bounds : String × String) : Prop :=
  (bounds.1 = "" ∨ bounds.1 ≤ x) ∧ (bounds.2 = "" ∨ x < bounds.2)

theorem isBetween_iff {i : Interval Date} (hlower : ∀ d ∈ i.lower, d.Exists)
    (hupper : ∀ d ∈ i.upper, d.Exists) (hx : x.Exists) :
    IsBetween (String.ofList x.text) (dayText i.lower, dayText i.upper) ↔ IsWithin x i := by
  have hne : ∀ d : Date, String.ofList d.text ≠ "" := fun d => by simp [Date.text]
  obtain ⟨lower, upper⟩ := i
  refine and_congr ?_ ?_
  · cases lower with
    | none => simp [dayText]
    | some d =>
        have hle : String.ofList d.text ≤ String.ofList x.text ↔ d ≤ x := by
          rw [← not_lt, ← not_lt, String.lt_iff_toList_lt, String.toList_ofList,
            String.toList_ofList, Date.text_lt_text hx (hlower d rfl)]
        simp [dayText, hne, hle]
  · cases upper with
    | none => simp [dayText]
    | some d =>
        have hlt : String.ofList x.text < String.ofList d.text ↔ x < d := by
          rw [String.lt_iff_toList_lt, String.toList_ofList, String.toList_ofList,
            Date.text_lt_text hx (hupper d rfl)]
        simp [dayText, hne, hlt]

/-- Bounds of an expression hold the days that are stated. -/
theorem isBetween_dayTexts? {bounds : String × String} (h : dayTexts? expr = some bounds)
    (hst : Spells IsDate (dropFinalNewline expr) st) (hx : x.Exists) :
    IsBetween (String.ofList x.text) bounds ↔ st.Admits x := by
  obtain ⟨i, hi, rfl⟩ := Option.map_eq_some_iff.1 h
  obtain ⟨-, hlower, hupper⟩ := days?_bounds hi
  rw [(days?_of_spells hst).1] at hi
  rw [isBetween_iff hlower hupper hx, Stated.admits_iff hst hi hx]

theorem dayTexts?_isSome :
    (∃ bounds, dayTexts? expr = some bounds) ↔
      ∃ st, Spells IsDate (dropFinalNewline expr) st := by
  constructor
  · rintro ⟨bounds, h⟩
    obtain ⟨i, hi, -⟩ := Option.map_eq_some_iff.1 h
    exact exists_spells_of_days? hi
  · rintro ⟨st, hst⟩
    obtain ⟨hdays, hsome⟩ := days?_of_spells hst
    obtain ⟨i, hi⟩ := Option.isSome_iff_exists.1 hsome
    exact ⟨_, Option.map_eq_some_iff.2 ⟨i, hdays.trans hi, rfl⟩⟩

/-- Every day is in one of the intervals below a date, of the date and above it. -/
theorem days_partition (h : p.first < p.next) (x : Date) :
    let below := IsWithin x (Comparison.below.days p)
    let equal := IsWithin x (Comparison.equal.days p)
    let above := IsWithin x (Comparison.above.days p)
    (below ∧ ¬ equal ∧ ¬ above) ∨ (¬ below ∧ equal ∧ ¬ above) ∨ (¬ below ∧ ¬ equal ∧ above) := by
  simp only [IsWithin, Comparison.days, Option.mem_some_iff, forall_eq', Option.not_mem_none,
    false_imp_iff, implies_true, true_and, and_true, not_lt, not_le, not_and]
  rcases lt_or_ge x p.first with hfirst | hfirst
  · exact Or.inl ⟨hfirst, fun hle => absurd hle (not_le.2 hfirst), hfirst.trans h⟩
  · rcases lt_or_ge x p.next with hnext | hnext
    · exact Or.inr (Or.inl ⟨hfirst, ⟨hfirst, hnext⟩, hnext⟩)
    · exact Or.inr (Or.inr ⟨hfirst, fun _ => hnext, hnext⟩)

theorem dayTexts?_comparison {sign : List Char} (hs : sign ∈ k.spellings) (hv : IsDate s)
    (hp : period? s = some p) : ∃ bounds, dayTexts? (sign ++ s) = some bounds ∧
      ∀ x : Date, x.Exists → (IsBetween (String.ofList x.text) bounds ↔ IsWithin x (k.days p)) := by
  have hsign : ∀ k : Comparison, ∀ sign ∈ k.spellings, '\n' ∉ sign := by
    intro k
    cases k <;> decide
  have hline : '\n' ∉ sign ++ s := by
    rw [List.mem_append, not_or]
    exact ⟨hsign k sign hs, hv.mark_not_mem (by simp)⟩
  have hspells := Spells.comparison hs hv
  rw [← dropFinalNewline_of_not_mem hline] at hspells
  obtain ⟨bounds, hbounds⟩ := dayTexts?_isSome.2 ⟨_, hspells⟩
  refine ⟨bounds, hbounds, fun x hx => ?_⟩
  rw [isBetween_dayTexts? hbounds hspells hx]
  exact Comparison.admitsText_iff hp hx

/-- A date expression without a newline is a spelling of a comparison with a date, or of a range of
dates, all of them within the calendar. A day is between its bounds, compared as a text, if and only
if it is one of the days that are stated. So what is below a date, the date, and what is above it
share all days among them. -/
theorem dayTexts?_days (hline : '\n' ∉ expr) :
    ((∃ bounds, dayTexts? expr = some bounds) ↔ ∃ st, Spells IsDate expr st) ∧
    (∀ bounds st, dayTexts? expr = some bounds → Spells IsDate expr st → ∀ x : Date, x.Exists →
      (IsBetween (String.ofList x.text) bounds ↔ st.Admits x)) ∧
    ∀ value, IsDate value → ∃ below equal above, dayTexts? ('<' :: value) = some below ∧
      dayTexts? value = some equal ∧ dayTexts? ('>' :: value) = some above ∧
      ∀ x : Date, x.Exists →
        let isBelow := IsBetween (String.ofList x.text) below
        let isEqual := IsBetween (String.ofList x.text) equal
        let isAbove := IsBetween (String.ofList x.text) above
        (isBelow ∧ ¬ isEqual ∧ ¬ isAbove) ∨ (¬ isBelow ∧ isEqual ∧ ¬ isAbove) ∨
          (¬ isBelow ∧ ¬ isEqual ∧ isAbove) := by
  refine ⟨?_, fun bounds st hbounds hst x hx => ?_, fun value hv => ?_⟩
  · rw [dayTexts?_isSome, dropFinalNewline_of_not_mem hline]
  · rw [← dropFinalNewline_of_not_mem hline] at hst
    exact isBetween_dayTexts? hbounds hst hx
  · obtain ⟨p, hp⟩ := Option.isSome_iff_exists.1 (period?_isSome.2 hv)
    obtain ⟨date, hdate⟩ := exists_writes_of_period? hp
    have hperiod := PartialDate.first_lt_next ((period?_of_writes hdate).symm.trans hp)
    have hless : ['<'] ∈ Comparison.below.spellings := by decide
    have hplain : [] ∈ Comparison.equal.spellings := by decide
    have hgreater : ['>'] ∈ Comparison.above.spellings := by decide
    obtain ⟨below, hbelow, hbelow'⟩ := dayTexts?_comparison hless hv hp
    obtain ⟨equal, hequal, hequal'⟩ := dayTexts?_comparison hplain hv hp
    obtain ⟨above, habove, habove'⟩ := dayTexts?_comparison hgreater hv hp
    refine ⟨below, equal, above, hbelow, hequal, habove, fun x hx => ?_⟩
    simp only [hbelow' x hx, hequal' x hx, habove' x hx]
    exact days_partition hperiod x

/-- The leap day of a year that is divisible by 400. -/
theorem dayTexts?_days_february : '\n' ∉ "<=2000-02".toList ∧
    dayTexts? "<=2000-02".toList = some ("", "2000-03-01") ∧
      IsBetween (String.ofList (Date.text ⟨2000, 2, 29⟩)) ("", "2000-03-01") := by
  have hline : '\n' ∉ "<=2000-02".toList := by decide
  have hbounds : dayTexts? "<=2000-02".toList = some ("", "2000-03-01") := by decide +kernel
  have hyear : WritesNumber 4 "2000".toList 2000 := by
    refine ⟨rfl, ?_, ?_⟩ <;> decide +kernel
  have hmonth : WritesNumber 2 "02".toList 2 := by
    refine ⟨rfl, ?_, ?_⟩ <;> decide +kernel
  have hdate := WritesDate.month hyear hmonth
  have hsign : ['<', '='] ∈ Comparison.atMost.spellings := by decide
  have hspells : Spells IsDate "<=2000-02".toList (.comparison .atMost "2000-02".toList) :=
    Spells.comparison hsign ⟨_, hdate, PartialDate.period?_isSome.1 (by decide)⟩
  refine ⟨hline, hbounds, ?_⟩
  have hadmits : Stated.Admits ⟨2000, 2, 29⟩ (.comparison .atMost "2000-02".toList) :=
    ⟨_, hdate, Or.inr ⟨rfl, rfl⟩⟩
  exact ((dayTexts?_days hline).2.1 _ _ hbounds hspells _ (by decide)).2 hadmits

end PostSearch.Interval
