import PostSearch.Text.Numeral

/-! # Interval expressions

What counter and date expressions share: a comparison sign or a range `A..B`, and the pair of bounds
that is the result. -/

namespace PostSearch

/-- Bounds on both sides; a missing bound does not restrict. -/
structure Interval (α : Type) where
  lower : Option α
  upper : Option α
deriving DecidableEq, Repr

namespace Interval

/-- How a value compares with a stated one. -/
inductive Comparison where
  | equal
  | above
  | atLeast
  | below
  | atMost
deriving DecidableEq, Repr

/-- The comparison sign at the start of an expression, equality if there is none, and the rest. -/
def takeComparison : List Char → Comparison × List Char
  | '=' :: s => (.equal, s)
  | '>' :: '=' :: s => (.atLeast, s)
  | '>' :: s => (.above, s)
  | '<' :: '=' :: s => (.atMost, s)
  | '<' :: s => (.below, s)
  | s => (.equal, s)

/-- The two sides of a range `A..B`; a side holds no dots. -/
def splitRange? (s : List Char) : Option (List Char × List Char) :=
  match s.dropWhile (· ≠ '.') with
  | '.' :: '.' :: upper => some (s.takeWhile (· ≠ '.'), upper)
  | _ => none

/-- A side of a range: `*` is no bound, anything else has to be read by `read?`. -/
def readSide? {α : Type} (read? : List Char → Option α) (side : List Char) : Option (Option α) :=
  if side = ['*'] then some none else (read? side).map some

/-- The two sides of a range, not both `*`. -/
def readRange? {α : Type} (read? : List Char → Option α) (s : List Char) :
    Option (Option α × Option α) := do
  let (lower, upper) ← splitRange? s
  let lower ← readSide? read? lower
  let upper ← readSide? read? upper
  if lower.isNone && upper.isNone then none else some (lower, upper)

end Interval

end PostSearch
