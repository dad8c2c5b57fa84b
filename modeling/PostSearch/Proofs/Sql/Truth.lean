import PostSearch.Proofs.Sql.Operands
import PostSearch.Sql.Junction

/-! # What restrictions mean

A condition on rows is true, false, or unknown, where a value that it depends on is not there.
Connectives follow the logic of three values; `bool_or` passes over what is unknown and is unknown
itself if nothing else is left. A row or a group of rows is kept only if the condition is true.

The truth of a restriction is defined on its tree (`Restriction.truth`). -/

namespace PostSearch

/-- The items of a list; anything else has none. -/
def Datum.items : Datum → List Datum
  | .list items => items
  | _ => []

namespace Sql

/-! ### Three truth values -/

/-- Whether something is true, if that is known. -/
abbrev Truth := Option Bool

namespace Truth

variable {b : Bool} {t : Truth} {ts us : List Truth}

/-- What is unknown stays unknown. -/
def negation (t : Truth) : Truth :=
  t.map (!·)

/-- The truth value, or its negation. -/
def signed (positive : Bool) (t : Truth) : Truth :=
  if positive then t else negation t

/-- The value `b` decides, else the result is unknown if something is. -/
def joined (b : Bool) (ts : List Truth) : Truth :=
  if some b ∈ ts then some b else if none ∈ ts then none else some !b

abbrev conjunction (ts : List Truth) : Truth :=
  joined false ts

abbrev disjunction (ts : List Truth) : Truth :=
  joined true ts

/-- True if something is true, else false if something is false: the unknown is passed over. -/
def someOf (ts : List Truth) : Truth :=
  if some true ∈ ts then some true else if some false ∈ ts then some false else none

@[simp] theorem negation_eq_true : negation t = some true ↔ t = some false := by
  rcases t with _ | _ | _ <;> decide

theorem signed_not (b : Bool) (t : Truth) : signed (!b) t = negation (signed b t) := by
  cases b <;> rcases t with _ | _ | _ <;> rfl

theorem signed_eq_true {x : Bool} : signed b (some x) = some true ↔ (x = true ↔ b = true) := by
  cases b <;> cases x <;> decide

@[simp] theorem signed_eq_none : signed b t = none ↔ t = none := by
  cases b <;> rcases t with _ | _ | _ <;> decide

@[simp] theorem joined_singleton (b : Bool) (t : Truth) : joined b [t] = t := by
  cases b <;> rcases t with _ | _ | _ <;> decide

/-- What does not decide makes no difference. -/
theorem joined_congr (h : ∀ t, t ≠ some (!b) → (t ∈ us ↔ t ∈ ts)) : joined b us = joined b ts := by
  have hb : some b ≠ some !b := by cases b <;> decide
  simp only [joined, h _ hb, h none nofun]

theorem joined_eq_some_iff : joined b ts = some b ↔ some b ∈ ts := by
  unfold joined
  split
  · exact iff_of_true rfl ‹_›
  · split
    · exact iff_of_false nofun ‹_›
    · exact iff_of_false (by cases b <;> decide) ‹_›

theorem joined_ne_none (h : ∀ t ∈ ts, t ≠ none) : joined b ts ≠ none := by
  unfold joined
  split
  · nofun
  · rw [if_neg fun hmem => h _ hmem rfl]
    nofun

theorem someOf_eq_none : someOf ts = none ↔ ∀ t ∈ ts, t = none := by
  unfold someOf
  constructor
  · intro h t ht
    split at h
    · cases h
    · split at h
      · cases h
      · rcases t with _ | _ | _
        · rfl
        · contradiction
        · contradiction
  · intro h
    rw [if_neg fun hmem => Option.some_ne_none _ (h _ hmem),
      if_neg fun hmem => Option.some_ne_none _ (h _ hmem)]

/-- What is the same everywhere comes out of both. -/
theorem of_const (h : ∀ t' ∈ ts, t' = t) (hne : ts ≠ []) : joined b ts = t ∧ someOf ts = t := by
  have hmem : ∀ t', t' ∈ ts ↔ t' = t := by
    obtain ⟨t₀, ht₀⟩ := List.exists_mem_of_ne_nil ts hne
    refine fun t' => ⟨h t', ?_⟩
    rintro rfl
    exact h t₀ ht₀ ▸ ht₀
  unfold joined someOf
  simp only [hmem]
  cases b <;> rcases t with _ | _ | _ <;> decide

end Truth

/-! ### Truth in a row -/

/-- What a row holds. -/
structure Row where
  /-- The value of a column, or of an expression over columns, if there is one. -/
  value : String → Option Datum
  /-- Truth of conditions that are no comparison for equality: order, texts, other tables. -/
  judge : Atom Datum → Truth

namespace Row

/-- A row without values, as an outer join makes it up where nothing matches. -/
def blank : Row :=
  ⟨fun _ => none, fun _ => none⟩

/-- The rows that an outer join has for those that match. -/
def outer (rows : List Row) : List Row :=
  if rows = [] then [blank] else rows

/-- The value of the column is one of the items. Nothing is among no items, not even what is not
known. -/
def isAmong (row : Row) (column : String) (items : List Datum) : Truth :=
  if items = [] then some false else (row.value column).map fun v => decide (v ∈ items)

/-- One of the items of the column's value is among those given. -/
def meets (row : Row) (column : String) (items : List Datum) : Truth :=
  (row.value column).map fun v => v.items.any (· ∈ items)

/-- Truth of a simple condition. Ids stand in rows and among operands in the same form, so a value
need not be converted to the type that it is read as. -/
def truth (row : Row) : Atom Datum → Truth
  | .flag column => (row.value column).map fun v => decide (v = .flag true)
  | .isNull column => some (row.value column).isNone
  | .notNull column => some (row.value column).isSome
  | .compare left .equal right _ => (row.value left).map fun v => decide (v = right)
  | .oneOf column values _ => row.isAmong column values.items
  | .noneOf column values _ => Truth.negation (row.isAmong column values.items)
  | .overlaps column values => row.meets column values.items
  | .disjoint column values => Truth.negation (row.meets column values.items)
  | a => row.judge a

theorem outer_ne_nil (rows : List Row) : outer rows ≠ [] := by
  unfold outer
  split
  · exact List.cons_ne_nil _ _
  · assumption

theorem isAmong_eq_none {row : Row} {column : String} {items : List Datum} :
    row.isAmong column items = none ↔ items ≠ [] ∧ row.value column = none := by
  unfold isAmong
  split
  · rename_i hnil
    exact iff_of_false (Option.some_ne_none _) fun h => h.1 hnil
  · rename_i hne
    exact Option.map_eq_none_iff.trans (and_iff_right hne).symm

end Row

/-! ### Truth of restrictions -/

namespace Restriction

variable {ν μ : Type}

mutual

/-- Truth of a restriction where the truth of simple conditions is known: `here` for those outside
`someRow`, `rows` for the rows of the group. -/
def truth (rows : List (Atom ν → Truth)) (here : Atom ν → Truth) : Restriction ν → Truth
  | .const b => some b
  | .atom a => here a
  | .not f => Truth.negation (truth rows here f)
  | .all fs => Truth.conjunction (truths rows here fs)
  | .any fs => Truth.disjunction (truths rows here fs)
  | .someRow f => Truth.someOf (rows.map fun row => truth rows row f)

def truths (rows : List (Atom ν → Truth)) (here : Atom ν → Truth) : List (Restriction ν) → List Truth
  | [] => []
  | f :: fs => truth rows here f :: truths rows here fs

end

theorem truths_eq {rows : List (Atom ν → Truth)} {here : Atom ν → Truth}
    (fs : List (Restriction ν)) : truths rows here fs = fs.map (truth rows here) := by
  induction fs with
  | nil => rfl
  | cons f fs ih => rw [truths, ih, List.map_cons]

mutual

/-- Replacing operands does not change the truth, if simple conditions are true of the operands that
they had. -/
theorem truth_map (h : ν → μ) {rows : List (Atom μ → Truth)} {here : Atom μ → Truth} :
    ∀ f : Restriction ν, (f.map h).truth rows here =
      f.truth (rows.map (· ∘ Atom.map h)) (here ∘ Atom.map h)
  | .const _ => rfl
  | .atom _ => rfl
  | .not f => by rw [map, truth, truth, truth_map h f]
  | .all fs => by rw [map, truth, truth, truths_mapAll h fs]
  | .any fs => by rw [map, truth, truth, truths_mapAll h fs]
  | .someRow f => by
      rw [map, truth, truth, List.map_map]
      exact congrArg _ (List.map_congr_left fun row _ => truth_map h f)

theorem truths_mapAll (h : ν → μ) {rows : List (Atom μ → Truth)} {here : Atom μ → Truth} :
    ∀ fs : List (Restriction ν), truths rows here (mapAll h fs) =
      truths (rows.map (· ∘ Atom.map h)) (here ∘ Atom.map h) fs
  | [] => rfl
  | f :: fs => by rw [mapAll, truths, truths, truth_map h f, truths_mapAll h fs]

end

/-- Membership in an open list of items is known as membership in the list is. -/
theorem truth_member {rows : List (Atom Datum → Truth)} (row : Row) (column type : String)
    (items : List Scalar) (inclusive : Bool) :
    (member column items inclusive type).truth rows row.truth =
      Truth.signed inclusive (row.isAmong column (items.map .ofScalar)) := by
  unfold member
  split
  · rename_i hnil
    rw [hnil]
    cases inclusive <;> rfl
  · cases inclusive <;> rfl

theorem truth_overlap {rows : List (Atom Datum → Truth)} {row : Row} {column : String}
    {value : Datum} (hvalue : row.value column = some value) (numbers : List Int)
    (inclusive : Bool) :
    (overlap column numbers inclusive).truth rows row.truth =
      Truth.signed inclusive (some (value.items.any (· ∈ numbers.map .number))) := by
  have hmeets : row.meets column (Datum.numbers numbers).items =
      some (value.items.any (· ∈ numbers.map .number)) := by
    rw [Row.meets, hvalue]
    rfl
  rw [← hmeets]
  unfold overlap
  split
  · rename_i hnil
    have hnone : value.items.any (· ∈ ([] : List Datum)) = false :=
      List.any_eq_false.2 fun x _ => by simp
    rw [hmeets, hnil, List.map_nil, hnone]
    cases inclusive <;> rfl
  · cases inclusive <;> rfl

/-- The condition on rows is true of the row. -/
def KeepsRow (f : Restriction Datum) (row : Row) : Prop :=
  f.truth [row.truth] row.truth = some true

/-- The condition on groups is true of the group. -/
def KeepsGroup (f : Restriction Datum) (rows : List Row) : Prop :=
  f.truth (rows.map Row.truth) Row.blank.truth = some true

end Restriction

end Sql

end PostSearch
