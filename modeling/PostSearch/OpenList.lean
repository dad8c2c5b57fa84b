import PostSearch.Scalar
import PostSearch.Text.Split

/-! # Open lists

A list of items that may be open: either exactly these items, or everything except these. Open lists
are the finite and cofinite sets, so positive and negated filters combine by plain set algebra
without the universe ever being listed. Items keep the order of their first occurrence. -/

namespace PostSearch

/-- The items in the order of their first occurrence, each once. -/
def distinct {α : Type} [DecidableEq α] : List α → List α
  | [] => []
  | x :: xs => x :: (distinct xs).filter (· ≠ x)

@[simp] theorem mem_distinct {α : Type} [DecidableEq α] {x : α} {xs : List α} :
    x ∈ distinct xs ↔ x ∈ xs := by
  induction xs with
  | nil => simp [distinct]
  | cons y ys ih =>
    by_cases h : x = y <;> simp [distinct, ih, h]

theorem nodup_distinct {α : Type} [DecidableEq α] (xs : List α) : (distinct xs).Nodup := by
  induction xs with
  | nil => simp [distinct]
  | cons y ys ih => exact List.nodup_cons.2 ⟨by simp, ih.filter _⟩

/-- Exactly `items` if `inclusive`, else everything except them. -/
structure OpenList (α : Type) where
  items : List α
  inclusive : Bool
  nodup : items.Nodup
deriving DecidableEq

namespace OpenList

variable {α β : Type}

/-- The set that the items denote; repeated items count once. -/
def ofItems [DecidableEq α] (items : List α) (inclusive : Bool) : OpenList α :=
  ⟨distinct items, inclusive, nodup_distinct items⟩

/-- Exactly the given items. -/
def ofList [DecidableEq α] (items : List α) : OpenList α :=
  ofItems items true

def everything : OpenList α :=
  ⟨[], false, List.nodup_nil⟩

def empty : OpenList α :=
  ⟨[], true, List.nodup_nil⟩

def isEmpty (a : OpenList α) : Bool :=
  a.inclusive && a.items.isEmpty

/-- There is nothing else. -/
def isEverything (a : OpenList α) : Bool :=
  !a.inclusive && a.items.isEmpty

instance : Membership α (OpenList α) :=
  ⟨fun a x => (x ∈ a.items) ↔ a.inclusive = true⟩

theorem mem_def {a : OpenList α} {x : α} : x ∈ a ↔ (x ∈ a.items ↔ a.inclusive = true) :=
  Iff.rfl

instance [DecidableEq α] (a : OpenList α) (x : α) : Decidable (x ∈ a) :=
  inferInstanceAs (Decidable (x ∈ a.items ↔ a.inclusive = true))

/-- Everything outside. -/
def inverse (a : OpenList α) : OpenList α :=
  ⟨a.items, !a.inclusive, a.nodup⟩

def union [DecidableEq α] (a b : OpenList α) : OpenList α :=
  match a.inclusive, b.inclusive with
  | true, true => ofItems (a.items ++ b.items) true
  | false, false => ofItems (a.items.filter (· ∈ b.items)) false
  | true, false => ofItems (b.items.filter (· ∉ a.items)) false
  | false, true => ofItems (a.items.filter (· ∉ b.items)) false

def intersection [DecidableEq α] (a b : OpenList α) : OpenList α :=
  match a.inclusive, b.inclusive with
  | true, true => ofItems (a.items.filter (· ∈ b.items)) true
  | false, false => ofItems (a.items ++ b.items) false
  | true, false => ofItems (a.items.filter (· ∉ b.items)) true
  | false, true => ofItems (b.items.filter (· ∉ a.items)) true

/-- What is in the first but not in the second. -/
def difference [DecidableEq α] (a b : OpenList α) : OpenList α :=
  intersection a (inverse b)

/-- Replace the items, leaving out those without an image. -/
def filterMap [DecidableEq β] (f : α → Option β) (a : OpenList α) : OpenList β :=
  ofItems (a.items.filterMap f) a.inclusive

/-- The two have the same form and the same items, in whatever order. -/
def sameSet [DecidableEq α] (a b : OpenList α) : Bool :=
  a.inclusive == b.inclusive && a.items.all (· ∈ b.items) && b.items.all (· ∈ a.items)

/-- What the operations are asked for: open lists, or plain items that stand for exactly themselves.
-/
inductive Operand (α : Type) where
  | openList (a : OpenList α)
  | items (xs : List α)

/-- The open list of an operand. -/
def Operand.set [DecidableEq α] : Operand α → OpenList α
  | .openList a => a
  | .items xs => ofList xs

instance : Membership α (Operand α) where
  mem
    | .openList a, x => x ∈ a
    | .items xs, x => x ∈ xs

/-- An open list in messages: its items between brackets. -/
def text (a : OpenList Scalar) : String :=
  (if a.inclusive then "OpenList([" else "OpenList.inverse([") ++
    Text.joinWith ", " (a.items.map Scalar.literal) ++ "])"

end OpenList

end PostSearch
