import Mathlib
import PostSearch.Calendar

/-! # Days in order

Days are ordered by year, month and day, and their texts are ordered like them, since every part of
a text is filled up to the width of the largest (`Date.text_lt_text`).

A year, a month or a day is a `PartialDate`. The days it covers are those from the first day of its
period up to the next one after it (`PartialDate.covers_iff`), and it has a period if and only if it
covers some day and the last day of the calendar comes after all of them
(`PartialDate.period?_isSome`). -/

namespace PostSearch

/-! ### Numerals of a fixed width -/

namespace Numeral

theorem padded_of_lt {n : Nat} (width : Nat) (h : n < 10) :
    padded width n = List.replicate (width - 1) '0' ++ [n.digitChar] := by
  unfold padded natDigits
  rw [Nat.toDigits_of_lt_base h]
  rfl

/-- The last digit stands behind a numeral that is filled up to one place less. -/
theorem padded_succ {width n : Nat} (hw : 0 < width) :
    padded (width + 1) n = padded width (n / 10) ++ [(n % 10).digitChar] := by
  by_cases h : n < 10
  · have hdiv : n / 10 = 0 := Nat.div_eq_of_lt h
    have hzero : ['0'] = [Nat.digitChar 0] := rfl
    rw [padded_of_lt _ h, hdiv, padded_of_lt _ (by decide), Nat.mod_eq_of_lt h,
      Nat.add_sub_cancel, ← hzero, ← List.replicate_succ', Nat.sub_add_cancel hw]
  · unfold padded natDigits
    rw [Nat.toDigits_of_base_le (by decide) (not_lt.1 h), List.length_append, List.length_singleton,
      Nat.add_sub_add_right, List.append_assoc]

theorem digitChar_lt {a b : Nat} (ha : a < 10) (hb : b < 10) :
    (a.digitChar < b.digitChar ↔ a < b) ∧ (a.digitChar = b.digitChar ↔ a = b) := by
  have hall : ∀ a < 10, ∀ b < 10,
      (a.digitChar < b.digitChar ↔ a < b) ∧ (a.digitChar = b.digitChar ↔ a = b) := by
    decide
  exact hall a ha b hb

/-- Numerals of one width are ordered by their numbers, then by what stands behind them. -/
theorem padded_append_lt {width : Nat} (hw : 0 < width) {n m : Nat} (hn : n < 10 ^ width)
    (hm : m < 10 ^ width) (s t : List Char) :
    padded width n ++ s < padded width m ++ t ↔ n < m ∨ n = m ∧ s < t := by
  induction width, hw using Nat.le_induction generalizing n m s t with
  | base =>
      obtain ⟨hlt, heq⟩ := digitChar_lt (a := n) (b := m) (by omega) (by omega)
      rw [padded_of_lt 1 (by omega), padded_of_lt 1 (by omega)]
      simp only [Nat.sub_self, List.replicate_zero, List.nil_append, List.cons_append,
        List.cons_lt_cons_iff, hlt, heq]
  | succ width hw ih =>
      have hmod : ∀ k, k % 10 < 10 := fun k => Nat.mod_lt k (by decide)
      have hdiv : ∀ {k}, k < 10 ^ (width + 1) → k / 10 < 10 ^ width := fun hk =>
        Nat.div_lt_of_lt_mul (by rwa [Nat.pow_succ, Nat.mul_comm] at hk)
      obtain ⟨hlt, heq⟩ := digitChar_lt (hmod n) (hmod m)
      rw [padded_succ hw, padded_succ hw, List.append_assoc, List.append_assoc,
        ih (hdiv hn) (hdiv hm)]
      simp only [List.cons_append, List.nil_append, List.cons_lt_cons_iff, hlt, heq]
      have hsplit : n = m ↔ n / 10 = m / 10 ∧ n % 10 = m % 10 := by omega
      rw [hsplit]
      rcases Classical.em (s < t) with h | h
      · simp only [h, and_true]
        omega
      · simp only [h, and_false, or_false]
        omega

end Numeral

/-! ### Order -/

namespace Date

open Numeral

variable {d e : Date}

instance : LinearOrder Date :=
  LinearOrder.lift' (fun d => toLex (d.year, toLex (d.month, d.day))) fun d e h => by
    cases d
    cases e
    simpa using h

theorem lt_iff : d < e ↔ d.year < e.year ∨
    d.year = e.year ∧ (d.month < e.month ∨ d.month = e.month ∧ d.day < e.day) := by
  change toLex (d.year, toLex (d.month, d.day)) < toLex (e.year, toLex (e.month, e.day)) ↔ _
  simp only [Prod.Lex.toLex_lt_toLex]

theorem Exists.day_le (h : d.Exists) : d.day ≤ 31 := by
  have := h.2.2.2
  unfold daysIn at this
  split at this
  · split at this <;> omega
  · split at this <;> omega

theorem text_lt_text (hd : d.Exists) (he : e.Exists) : d.text < e.text ↔ d < e := by
  have hlast : lastYear = 9999 := rfl
  have hday := hd.day_le
  have hday' := he.day_le
  obtain ⟨⟨-, hyear⟩, ⟨-, hmonth⟩, -⟩ := hd
  obtain ⟨⟨-, hyear'⟩, ⟨-, hmonth'⟩, -⟩ := he
  have hdays : padded 2 d.day < padded 2 e.day ↔ d.day < e.day := by
    have htwo : 0 < 2 := by decide
    have := padded_append_lt htwo (n := d.day) (m := e.day) (by omega) (by omega) [] []
    simpa using this
  have hhyphen : ∀ s t : List Char, ('-' :: s < '-' :: t) ↔ s < t := fun s t => by
    simp
  unfold text
  rw [List.append_assoc, List.append_assoc, padded_append_lt (by decide) (by omega) (by omega),
    List.cons_append, List.cons_append, hhyphen,
    padded_append_lt (by decide) (by omega) (by omega), hhyphen, hdays, lt_iff]

/-! ### The end of the calendar -/

def lastDay : Date :=
  ⟨lastYear, 12, 31⟩

theorem exists_lastDay : lastDay.Exists := by
  decide

theorem daysIn_pos (year month : Nat) : 0 < daysIn year month := by
  unfold daysIn
  split
  · split <;> decide
  · split <;> decide

theorem Exists.le_lastDay (h : d.Exists) : d ≤ lastDay := by
  have hday := h.day_le
  obtain ⟨⟨-, hyear⟩, ⟨-, hmonth⟩, -⟩ := h
  rw [← not_lt, lt_iff]
  simp only [lastDay]
  omega

theorem exists_first {year month : Nat} (hyear : 1 ≤ year ∧ year ≤ lastYear)
    (hmonth : 1 ≤ month ∧ month ≤ 12) : Exists ⟨year, month, 1⟩ :=
  ⟨hyear, hmonth, le_rfl, daysIn_pos year month⟩

theorem exists_nextMonth (h : d.Exists) (hlast : ¬ (d.year = lastYear ∧ d.month = 12)) :
    d.nextMonth.Exists := by
  obtain ⟨hyear, hmonth, -⟩ := h
  unfold nextMonth
  split
  · exact exists_first (by omega) (by decide)
  · exact exists_first hyear (by omega)

theorem exists_nextDay (h : d.Exists) (hlast : d ≠ lastDay) : d.nextDay.Exists := by
  unfold nextDay
  split
  · obtain ⟨hyear, hmonth, -⟩ := h
    exact ⟨hyear, hmonth, Nat.succ_pos _, Nat.succ_le_of_lt ‹_›⟩
  · rename_i hday
    refine exists_nextMonth h fun ⟨hyear, hmonth⟩ => hlast ?_
    -- December has 31 days, and the day is its last
    have hdays : daysIn d.year d.month = 31 := by rw [hmonth]; rfl
    have := h.2.2.2
    obtain ⟨y, m, day⟩ := d
    dsimp only at *
    obtain rfl : day = 31 := by omega
    rw [hyear, hmonth]
    rfl

end Date

/-! ### Partial dates -/

/-- A year, one of its months, or a day of that. -/
inductive PartialDate where
  | year (y : Nat)
  | month (y m : Nat)
  | day (y m d : Nat)
deriving DecidableEq, Repr

namespace PartialDate

variable {date : PartialDate} {p : Period} {x : Date}

/-- The day agrees with the parts that are given. -/
def Covers (x : Date) : PartialDate → Prop
  | year y => x.year = y
  | month y m => x.year = y ∧ x.month = m
  | day y m d => x.year = y ∧ x.month = m ∧ x.day = d

/-- All days that are covered come after the day. -/
def Follows (date : PartialDate) (x : Date) : Prop :=
  ∀ y : Date, y.Exists → date.Covers y → x < y

/-- All days that are covered come before the day. -/
def Precedes (date : PartialDate) (x : Date) : Prop :=
  ∀ y : Date, y.Exists → date.Covers y → y < x

/-- The period of the days that are covered. -/
def period? : PartialDate → Option Period
  | year y => Period.ofYear? y
  | month y m => Period.ofMonth? y m
  | day y m d => Period.ofDay? y m d

/-- Some day of the calendar is covered, and they all come before its last one. -/
def IsInside (date : PartialDate) : Prop :=
  (∃ x : Date, x.Exists ∧ date.Covers x) ∧ ∀ x : Date, x.Exists → date.Covers x → x < Date.lastDay

theorem between?_eq_some {first next : Date} :
    Period.between? first next = some p ↔ (first.Exists ∧ next.Exists) ∧ p = ⟨first, next⟩ := by
  unfold Period.between?
  split
  · rename_i h
    simp [h, eq_comm]
  · rename_i h
    simp [h]

/-- The days that are covered are those of the period. -/
theorem covers_iff (h : date.period? = some p) (hx : x.Exists) :
    date.Covers x ↔ p.first ≤ x ∧ x < p.next := by
  obtain ⟨-, ⟨hmonth, hmonth'⟩, hday, hday'⟩ := hx
  rw [← not_lt]
  cases date with
  | year y =>
      obtain ⟨-, rfl⟩ := between?_eq_some.1 h
      simp only [Covers, Date.lt_iff]
      omega
  | month y m =>
      obtain ⟨-, rfl⟩ := between?_eq_some.1 h
      simp only [Covers, Date.lt_iff, Date.nextMonth]
      split <;> dsimp only at * <;> omega
  | day y m d =>
      obtain ⟨⟨⟨-, -, -, hlast⟩, -⟩, rfl⟩ := between?_eq_some.1 h
      have hmost : x.year = y → x.month = m → x.day ≤ Date.daysIn y m := by
        rintro rfl rfl
        exact hday'
      simp only [Covers, Date.lt_iff, Date.nextDay, Date.nextMonth]
      split
      · dsimp only at *
        omega
      · split <;> dsimp only at * <;> omega

theorem exists_first (h : date.period? = some p) : p.first.Exists ∧ date.Covers p.first := by
  cases date with
  | year y =>
      obtain ⟨⟨hfirst, -⟩, rfl⟩ := between?_eq_some.1 h
      exact ⟨hfirst, rfl⟩
  | month y m =>
      obtain ⟨⟨hfirst, -⟩, rfl⟩ := between?_eq_some.1 h
      exact ⟨hfirst, rfl, rfl⟩
  | day y m d =>
      obtain ⟨⟨hfirst, -⟩, rfl⟩ := between?_eq_some.1 h
      exact ⟨hfirst, rfl, rfl, rfl⟩

theorem exists_next (h : date.period? = some p) : p.next.Exists := by
  cases date <;> exact (between?_eq_some.1 h).2 ▸ (between?_eq_some.1 h).1.2

theorem first_lt_next (h : date.period? = some p) : p.first < p.next := by
  obtain ⟨hfirst, hcovers⟩ := exists_first h
  exact ((covers_iff h hfirst).1 hcovers).2

/-- What a date follows comes before its period. -/
theorem follows_iff (h : date.period? = some p) : date.Follows x ↔ x < p.first := by
  constructor
  · intro hx
    obtain ⟨hfirst, hcovers⟩ := exists_first h
    exact hx _ hfirst hcovers
  · intro hx y hy hcovers
    exact hx.trans_le ((covers_iff h hy).1 hcovers).1

/-- What a date precedes comes after its period. -/
theorem precedes_iff (h : date.period? = some p) (hx : x.Exists) :
    date.Precedes x ↔ p.next ≤ x := by
  constructor
  · intro hall
    obtain ⟨hfirst, hcovers⟩ := exists_first h
    have hlt := hall _ hfirst hcovers
    by_contra hnext
    have hcovered := (covers_iff h hx).2 ⟨hlt.le, not_le.1 hnext⟩
    exact lt_irrefl x (hall x hx hcovered)
  · intro hnext y hy hcovers
    exact ((covers_iff h hy).1 hcovers).2.trans_le hnext

/-- A date has a period if and only if its days end before the calendar does. -/
theorem period?_isSome : date.period?.isSome ↔ date.IsInside := by
  constructor
  · intro h
    obtain ⟨p, hp⟩ := Option.isSome_iff_exists.1 h
    refine ⟨⟨p.first, exists_first hp⟩, fun x hx hcovers => ?_⟩
    exact ((covers_iff hp hx).1 hcovers).2.trans_le (exists_next hp).le_lastDay
  · rintro ⟨⟨x, hx, hcovers⟩, hlast⟩
    have hall : ¬ date.Covers Date.lastDay := fun h =>
      absurd (hlast _ Date.exists_lastDay h) (lt_irrefl _)
    obtain ⟨hyear, hmonth, hday⟩ := hx
    rw [Option.isSome_iff_exists]
    cases date with
    | year y =>
        obtain rfl : x.year = y := hcovers
        have hne : x.year ≠ Date.lastYear := fun e => hall e.symm
        have hfirst : Date.Exists ⟨x.year, 1, 1⟩ := Date.exists_first hyear (by decide)
        have hnext : Date.Exists ⟨x.year + 1, 1, 1⟩ := Date.exists_first (by omega) (by decide)
        exact ⟨_, between?_eq_some.2 ⟨⟨hfirst, hnext⟩, rfl⟩⟩
    | month y m =>
        obtain ⟨rfl, rfl⟩ := hcovers
        have hfirst := Date.exists_first hyear hmonth
        refine ⟨_, between?_eq_some.2 ⟨⟨hfirst, Date.exists_nextMonth hfirst ?_⟩, rfl⟩⟩
        rintro ⟨e, e'⟩
        exact hall ⟨e.symm, e'.symm⟩
    | day y m d =>
        obtain ⟨rfl, rfl, rfl⟩ := hcovers
        have hx : Date.Exists x := ⟨hyear, hmonth, hday⟩
        refine ⟨_, between?_eq_some.2 ⟨⟨hx, Date.exists_nextDay hx ?_⟩, rfl⟩⟩
        intro e
        exact hall (e ▸ ⟨rfl, rfl, rfl⟩)

end PartialDate

end PostSearch
