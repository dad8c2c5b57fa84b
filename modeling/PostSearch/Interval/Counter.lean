import PostSearch.Interval.Basic
import PostSearch.Text.Split

/-! # Counter expressions

`5`, `=5`, `>5`, `>=5`, `<5`, `<=5`, and ranges `3..5`, `3..*`, `*..5`. The bounds that result are
inclusive: `>5` is "at least 6". -/

namespace PostSearch.Interval

def digits? (s : List Char) : Option (List Char) :=
  if s ≠ [] ∧ s.all Unicode.isDigit then some s else none

/-- Inclusive bounds of the numbers that compare with `n` as stated. -/
def Comparison.counts (n : Int) : Comparison → Interval Int
  | .equal => ⟨some n, some n⟩
  | .above => ⟨some (n + 1), none⟩
  | .atLeast => ⟨some n, none⟩
  | .below => ⟨none, some (n - 1)⟩
  | .atMost => ⟨none, some n⟩

def readBound (side : Option (List Char)) : Except NumeralError (Option Int) :=
  match side with
  | none => .ok none
  | some s => (Numeral.readDigits s).map fun n => some (n : Int)

/-- The interval that a counter expression denotes; none if it is not one. It fails only on a
numeral that is too long. -/
def counts? (expr : List Char) : Except NumeralError (Option (Interval Int)) := do
  let expr := Text.dropFinalNewline expr
  let (comparison, value) := takeComparison expr
  match digits? value with
  | some s =>
    let n ← Numeral.readDigits s
    return some (comparison.counts n)
  | none =>
    match readRange? digits? expr with
    | some (lower, upper) => return some ⟨← readBound lower, ← readBound upper⟩
    | none => return none

/-- A counter bound as text, the empty text for a missing one. -/
def countText : Option Int → Except NumeralError String
  | none => .ok ""
  | some n => (Numeral.showInt n).map String.ofList

/-- The bounds of a counter expression as texts; none if it is not one. -/
def countTexts? (expr : List Char) : Except NumeralError (Option (String × String)) := do
  match ← counts? expr with
  | none => return none
  | some i => return some (← countText i.lower, ← countText i.upper)

end PostSearch.Interval
