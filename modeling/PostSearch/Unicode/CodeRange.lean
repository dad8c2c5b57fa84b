/-! # Sets and maps of code points

Character classes are tables of ascending code point ranges, character maps are tables of ascending
runs or single rows. Every search walks its table from the left and gives up at the first row that
begins above the code point, so characters below the first row cost one comparison. -/

namespace PostSearch.Unicode

/-- The code points from `first` to `last`, both included. -/
structure CodeRange where
  first : Nat
  last : Nat

/-- The range of an ascending table that holds `c`. -/
def rangeOf? (c : Nat) : List CodeRange → Option CodeRange
  | [] => none
  | r :: rs => if c < r.first then none else if c ≤ r.last then some r else rangeOf? c rs

/-- Some range of an ascending table holds `c`. -/
def inRanges (c : Nat) (table : List CodeRange) : Bool :=
  (rangeOf? c table).isSome

/-- The code points `first`, `first + step`, … up to `last`, mapped to `image`, `image + step`, … -/
structure CodeRun where
  first : Nat
  last : Nat
  step : Nat
  image : Nat

/-- Image of `c` under an ascending table of runs. -/
def imageInRuns (c : Nat) : List CodeRun → Option Nat
  | [] => none
  | r :: rs =>
    if c < r.first then none
    else if c ≤ r.last ∧ (c - r.first) % r.step = 0 then some (r.image + (c - r.first))
    else imageInRuns c rs

/-- A code point and the code points it stands for. -/
structure Expansion where
  code : Nat
  image : List Nat

/-- What `c` stands for, in an ascending table. -/
def expansionOf? (c : Nat) : List Expansion → Option (List Nat)
  | [] => none
  | e :: es => if c < e.code then none else if c = e.code then some e.image else expansionOf? c es

theorem rangeOf?_some {c : Nat} {r : CodeRange} {table : List CodeRange}
    (h : rangeOf? c table = some r) : r ∈ table ∧ r.first ≤ c ∧ c ≤ r.last := by
  induction table with
  | nil => simp [rangeOf?] at h
  | cons s rs ih =>
    unfold rangeOf? at h
    split at h
    · simp at h
    · split at h
      · obtain rfl : s = r := by simpa using h
        exact ⟨List.mem_cons_self, by omega, by omega⟩
      · exact ⟨List.mem_cons_of_mem _ (ih h).1, (ih h).2⟩

/-! ### Properties of the characters of a text

Where all characters can be run through, that is the first thing tried for a property of a text's
characters. These instances go before it: only the characters of the text are looked at. -/

instance (priority := high) decidableForallMemText (s : List Char) (p : Char → Prop)
    [DecidablePred p] : Decidable (∀ c ∈ s, p c) :=
  List.decidableBAll p s

instance (priority := high) decidableForallMemOption (c? : Option Char) (p : Char → Prop)
    [DecidablePred p] : Decidable (∀ c ∈ c?, p c) :=
  Option.decidableForallMem c?

end PostSearch.Unicode
