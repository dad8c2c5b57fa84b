import PostSearch.Clause.Conditions
import PostSearch.Interval.Basic
import PostSearch.Sql.Restriction

/-! # Dates and counters

Conditions on an interval compare a column with their bounds. Date bounds are half open, counter
bounds inclusive; an empty bound does not restrict. -/

namespace PostSearch.Clause

open Query Sql

/-- Why the arguments of a condition are no interval. -/
inductive IntervalError where
  /-- There are not two bounds but as many as stated. -/
  | boundCount (n : Nat)
  /-- A bound of a counter is no number. -/
  | numeral (e : NumeralError)
deriving DecidableEq, Repr

def IntervalError.message : IntervalError → String
  | .boundCount n =>
    if n < 2 then "not enough values to unpack (expected 2, got " ++ toString n ++ ")"
    else "too many values to unpack (expected 2)"
  | .numeral e => e.message

def bounds (c : Condition) : Except IntervalError (String × String) :=
  match c.args with
  | [lower, upper] => .ok (lower, upper)
  | args => .error (.boundCount args.length)

/-- The restriction, negated for an excluded condition. -/
def signed (c : Condition) (f : Restriction Datum) : Restriction Datum :=
  if c.excluded then .not f else f

/-- A comparison with a bound, unless the bound is empty. -/
def dayBound (column : String) (relation : Relation) (bound : String) : List (Restriction Datum) :=
  if bound = "" then []
  else [.atom (.compare column relation (.text bound) (some "timestamptz"))]

def dayRestriction (column : String) (c : Condition) :
    Except IntervalError (Restriction Datum) := do
  let (lower, upper) ← bounds c
  return signed c (.all (dayBound column .atLeast lower ++ dayBound column .below upper))

/-- The number of a bound, none if the bound is empty. -/
def countBound (bound : String) : Except IntervalError (Option Int) :=
  if bound = "" then .ok none
  else match Numeral.readInt 10 bound.toList with
    | .ok n => .ok (some n)
    | .error e => .error (.numeral e)

def countsRestriction (column : String) (i : Interval Int) : Restriction Datum :=
  let value (n : Int) : Datum := .number n
  match i.lower, i.upper with
  | some lower, some upper => .atom (.between column (value lower) (value upper))
  | some lower, none => .all [.atom (.compare column .atLeast (value lower) none)]
  | none, some upper => .all [.atom (.compare column .atMost (value upper) none)]
  | none, none => .all []

def countRestriction (column : String) (c : Condition) :
    Except IntervalError (Restriction Datum) := do
  let (lower, upper) ← bounds c
  let lower ← countBound lower
  let upper ← countBound upper
  return signed c (countsRestriction column ⟨lower, upper⟩)

/-- All conditions on the date of what is found, in exactly the given scope. -/
def contentDates (tokens : List Token) (column : String) (scope : Scope) :
    Except IntervalError (Restriction Datum) := do
  return .all (← (conditionsOf .contentDate (inScope scope tokens)).mapM (dayRestriction column))

def postDates (tokens : List Token) (column : String) :
    Except IntervalError (Restriction Datum) := do
  return .all (← (conditionsOf .postDate tokens).mapM (dayRestriction column))

def counters (tokens : List Token) (operator : Operator) (column : String) :
    Except IntervalError (Restriction Datum) := do
  return .all (← (conditionsOf operator tokens).mapM (countRestriction column))

end PostSearch.Clause
