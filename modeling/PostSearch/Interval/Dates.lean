import PostSearch.Calendar
import PostSearch.Interval.Basic
import PostSearch.Text.Split

/-! # Date expressions

A date is `YYYY`, `YYYY-MM` or `YYYY-MM-DD` and denotes all of its days. Expressions are as for
counters; the bounds that result are half open, the upper one being the first day outside. -/

namespace PostSearch.Interval

open Text

/-- Days of a stated date: digits in groups of four, two and two. A group stands for its number. -/
def period? (s : List Char) : Option Period :=
  let groups := splitAt '-' s
  let number (group : List Char) := Numeral.ofDigits 10 (group.filterMap Unicode.digitValue?)
  if groups.all (·.all Unicode.isDigit) then
    match groups with
    | [y] => if y.length = 4 then Period.ofYear? (number y) else none
    | [y, m] =>
      if y.length = 4 ∧ m.length = 2 then Period.ofMonth? (number y) (number m) else none
    | [y, m, d] =>
      if y.length = 4 ∧ m.length = 2 ∧ d.length = 2 then
        Period.ofDay? (number y) (number m) (number d)
      else none
    | _ => none
  else none

/-- Half-open bounds of the days that compare with those of a period as stated. -/
def Comparison.days (p : Period) : Comparison → Interval Date
  | .equal => ⟨some p.first, some p.next⟩
  | .above => ⟨some p.next, none⟩
  | .atLeast => ⟨some p.first, none⟩
  | .below => ⟨none, some p.first⟩
  | .atMost => ⟨none, some p.next⟩

/-- The interval that a date expression denotes; none if it is not one or a date in it does not
exist. -/
def days? (expr : List Char) : Option (Interval Date) :=
  let expr := dropFinalNewline expr
  let (comparison, value) := takeComparison expr
  match period? value with
  | some p => some (comparison.days p)
  | none => (readRange? period? expr).map fun (lower, upper) =>
      ⟨lower.map Period.first, upper.map Period.next⟩

/-- A date bound as text, the empty text for a missing one. -/
def dayText (day : Option Date) : String :=
  String.ofList (day.elim [] Date.text)

/-- The bounds of a date expression as texts; none if it is not one. -/
def dayTexts? (expr : List Char) : Option (String × String) :=
  (days? expr).map fun i => (dayText i.lower, dayText i.upper)

/-! ### Stated periods

The parts between hyphens may be any numerals here, and only their number is limited. -/

/-- Why a text states no period, not even one outside the calendar. -/
inductive PeriodError where
  | numeral (e : NumeralError)
  /-- There are more than three parts. -/
  | tooManyParts
deriving DecidableEq, Repr

/-- The numbers between the hyphens. -/
def parts (s : List Char) : Except NumeralError (List Nat) :=
  (splitAt '-' s).mapM fun part => (Numeral.readInt 10 part).map Int.toNat

/-- The period that a text states; none if it is empty or not in the calendar. -/
def statedPeriod? (s : List Char) : Except PeriodError (Option Period) :=
  if s = [] then .ok none
  else match parts s with
    | .error e => .error (.numeral e)
    | .ok [y] => .ok (Period.ofYear? y)
    | .ok [y, m] => .ok (Period.ofMonth? y m)
    | .ok [y, m, d] => .ok (Period.ofDay? y m d)
    | .ok _ => .error .tooManyParts

end PostSearch.Interval
