import PostSearch.Text.Numeral

/-! # Calendar

Days of the Gregorian calendar in the years 1 to 9999, and the period that a year, a month or a day
stands for: its first day and the first day after it. A period whose next day lies beyond the
calendar does not exist. -/

namespace PostSearch

/-- A year, month and day; `Date.Exists` says that there is such a day. -/
structure Date where
  year : Nat
  month : Nat
  day : Nat
deriving DecidableEq, Repr

namespace Date

def lastYear : Nat := 9999

/-- Years with a 29th of February. -/
def isLeap (year : Nat) : Bool :=
  year % 4 == 0 && (year % 100 != 0 || year % 400 == 0)

def daysIn (year month : Nat) : Nat :=
  if month = 2 then (if isLeap year then 29 else 28)
  else if month = 4 ∨ month = 6 ∨ month = 9 ∨ month = 11 then 30
  else 31

/-- The day is in the calendar. -/
def Exists (d : Date) : Prop :=
  (1 ≤ d.year ∧ d.year ≤ lastYear) ∧ (1 ≤ d.month ∧ d.month ≤ 12) ∧
    (1 ≤ d.day ∧ d.day ≤ daysIn d.year d.month)

instance (d : Date) : Decidable d.Exists :=
  inferInstanceAs (Decidable (_ ∧ _ ∧ _))

/-- The first day of the month after. -/
def nextMonth (d : Date) : Date :=
  if d.month = 12 then ⟨d.year + 1, 1, 1⟩ else ⟨d.year, d.month + 1, 1⟩

def nextDay (d : Date) : Date :=
  if d.day < daysIn d.year d.month then ⟨d.year, d.month, d.day + 1⟩ else d.nextMonth

/-- The day as `YYYY-MM-DD`. -/
def text (d : Date) : List Char :=
  Numeral.padded 4 d.year ++ '-' :: Numeral.padded 2 d.month ++ '-' :: Numeral.padded 2 d.day

end Date

/-- The days from `first` up to, but not including, `next`. -/
structure Period where
  first : Date
  next : Date
deriving DecidableEq, Repr

namespace Period

/-- The period, if both of its ends are in the calendar. -/
def between? (first next : Date) : Option Period :=
  if first.Exists ∧ next.Exists then some ⟨first, next⟩ else none

def ofYear? (year : Nat) : Option Period :=
  between? ⟨year, 1, 1⟩ ⟨year + 1, 1, 1⟩

def ofMonth? (year month : Nat) : Option Period :=
  between? ⟨year, month, 1⟩ (Date.nextMonth ⟨year, month, 1⟩)

def ofDay? (year month day : Nat) : Option Period :=
  between? ⟨year, month, day⟩ (Date.nextDay ⟨year, month, day⟩)

end Period

end PostSearch
