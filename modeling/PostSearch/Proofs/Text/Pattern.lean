import Mathlib.Data.List.Basic

/-! # Patterns

A pattern is read from a place of a text onwards. All ways to read it are listed in the order of
preference (`Pattern.readings`): the first of two alternatives comes before the second one, and more
turns come before fewer. The first way is the one that is taken (`Pattern.first?`), so whatever a
part prefers is given up again if nothing that follows can be read then. The equations of `first?`
say what is taken without going through all ways; a run of characters gives nothing up if what
follows it begins with none of them (`findSome?_run`).

`Pattern.findAll` lists what is found of a pattern in a text, from left to right. -/

namespace PostSearch.Text

/-- A place in a text: how many characters are behind it, and those ahead. -/
structure Place where
  index : Nat
  ahead : List Char
deriving DecidableEq, Repr

/-- The characters of a text from `start` up to `stop`, which is not included. -/
structure Span where
  start : Nat
  stop : Nat
deriving DecidableEq, Repr

instance : Membership Nat Span :=
  ⟨fun span i => span.start ≤ i ∧ i < span.stop⟩

theorem Span.mem_iff {span : Span} {i : Nat} : i ∈ span ↔ span.start ≤ i ∧ i < span.stop :=
  Iff.rfl

instance (i : Nat) (span : Span) : Decidable (i ∈ span) :=
  decidable_of_iff _ Span.mem_iff.symm

/-- A pattern, whose groups have names in `γ`. -/
inductive Pattern (γ : Type) where
  | empty
  | char (p : Char → Bool)
  | seq (a b : Pattern γ)
  | either (a b : Pattern γ)
  | many (turn : Pattern γ)
  | group (name : γ) (inner : Pattern γ)

/-- A way to read a pattern: the groups that were set, and the place behind it. -/
structure Reading (γ : Type) where
  groups : List (γ × Span)
  place : Place
deriving DecidableEq, Repr

variable {γ : Type}

def Reading.followedBy (r r' : Reading γ) : Reading γ :=
  ⟨r.groups ++ r'.groups, r'.place⟩

namespace Pattern

variable {a b c : Pattern γ} {p : Char → Bool} {here : Place} {i : Nat} {x : Char} {s : List Char}

/-! ### Readings -/

/-- All ways to take turns, each of which takes something; more turns come before fewer. -/
def turns (read : Place → List (Reading γ)) (here : Place) : List (Reading γ) :=
  ((read here).flatMap fun r =>
    if _h : r.place.ahead.length < here.ahead.length then (turns read r.place).map r.followedBy
    else []) ++ [⟨[], here⟩]
termination_by here.ahead.length

/-- All ways to read a pattern from a place onwards, in the order of preference. -/
def readings : Pattern γ → Place → List (Reading γ)
  | .empty, here => [⟨[], here⟩]
  | .char _, ⟨_, []⟩ => []
  | .char p, ⟨i, c :: s⟩ => if p c then [⟨[], ⟨i + 1, s⟩⟩] else []
  | .seq a b, here => (a.readings here).flatMap fun r => (b.readings r.place).map r.followedBy
  | .either a b, here => a.readings here ++ b.readings here
  | .many turn, here => turns turn.readings here
  | .group name inner, here => (inner.readings here).map fun r =>
      ⟨r.groups ++ [(name, ⟨here.index, r.place.index⟩)], r.place⟩

/-- The way in which a pattern is read. -/
def first? (a : Pattern γ) (here : Place) : Option (Reading γ) :=
  (a.readings here).head?

def optional (a : Pattern γ) : Pattern γ :=
  .either a .empty

def run (p : Char → Bool) : Pattern γ :=
  .seq (.char p) (.many (.char p))

theorem readings_char (p : Char → Bool) : (char p : Pattern γ).readings ⟨i, x :: s⟩ =
    if p x then [⟨[], ⟨i + 1, s⟩⟩] else [] := rfl

theorem readings_seq (a b : Pattern γ) : (seq a b).readings here =
    (a.readings here).flatMap fun r => (b.readings r.place).map r.followedBy := rfl

theorem readings_group (name : γ) (a : Pattern γ) : (group name a).readings here =
    (a.readings here).map fun r =>
      ⟨r.groups ++ [(name, ⟨here.index, r.place.index⟩)], r.place⟩ := rfl

theorem readings_optional (a : Pattern γ) :
    (optional a).readings here = a.readings here ++ [⟨[], here⟩] := rfl

/-! ### The way that is taken -/

theorem first?_either : (either a b).first? here = (a.first? here).or (b.first? here) :=
  List.head?_append

theorem first?_group (name : γ) : (group name a).first? here = (a.first? here).map fun r =>
    ⟨r.groups ++ [(name, ⟨here.index, r.place.index⟩)], r.place⟩ :=
  List.head?_map

theorem first?_seq : (seq a b).first? here =
    (a.readings here).findSome? fun r => (b.first? r.place).map r.followedBy := by
  unfold first?
  rw [readings_seq, List.head?_flatMap]
  simp only [List.head?_map]

theorem followedBy_nil (place : Place) : (⟨[], place⟩ : Reading γ).followedBy = id := rfl

theorem readings_seq_assoc : (seq (seq a b) c).readings here = (seq a (seq b c)).readings here := by
  simp only [readings_seq, List.flatMap_assoc, List.flatMap_map, List.map_flatMap, List.map_map]
  congr 1
  funext r
  congr 1
  funext r'
  congr 1
  funext r''
  simp [Reading.followedBy]

theorem first?_seq_assoc : (seq (seq a b) c).first? here = (seq a (seq b c)).first? here :=
  congrArg List.head? readings_seq_assoc

theorem first?_optional_seq : (seq (optional a) b).first? here =
    ((seq a b).first? here).or (b.first? here) := by
  rw [first?_seq, first?_seq, readings_optional, List.findSome?_append, List.findSome?_singleton,
    followedBy_nil, Option.map_id, id]

/-! ### Characters -/

theorem readings_char_cons (h : p x = true) :
    (char p : Pattern γ).readings ⟨i, x :: s⟩ = [⟨[], ⟨i + 1, s⟩⟩] := by
  rw [readings_char, if_pos h]

theorem readings_char_stop (h : ∀ x ∈ s.head?, p x = false) :
    (char p : Pattern γ).readings ⟨i, s⟩ = [] := by
  cases s with
  | nil => rfl
  | cons x s => rw [readings_char, h x rfl, if_neg Bool.false_ne_true]

theorem first?_char_cons : (char p : Pattern γ).first? ⟨i, x :: s⟩ =
    if p x then some ⟨[], ⟨i + 1, s⟩⟩ else none := by
  unfold first?
  rw [readings_char]
  split <;> rfl

theorem first?_char_seq_cons : (seq (char p) b).first? ⟨i, x :: s⟩ =
    if p x then b.first? ⟨i + 1, s⟩ else none := by
  rw [first?_seq, readings_char]
  split
  · rw [List.findSome?_singleton, followedBy_nil, Option.map_id, id]
  · rfl

theorem first?_group_char_seq_cons (name : γ) : (seq (group name (char p)) b).first? ⟨i, x :: s⟩ =
    if p x then (b.first? ⟨i + 1, s⟩).map fun r => ⟨(name, ⟨i, i + 1⟩) :: r.groups, r.place⟩
    else none := by
  rw [first?_seq, readings_group, readings_char]
  split
  · rw [List.map_singleton, List.findSome?_singleton]
    rfl
  · rfl

/-! ### Turns -/

theorem readings_many : (many a).readings here =
    ((a.readings here).flatMap fun r =>
      if r.place.ahead.length < here.ahead.length then
        ((many a).readings r.place).map r.followedBy
      else []) ++ [⟨[], here⟩] := by
  change turns a.readings here = _
  rw [turns]
  rfl

theorem readings_many_stop (h : a.readings here = []) :
    (many a).readings here = [⟨[], here⟩] := by
  rw [readings_many, h]
  rfl

theorem readings_many_turn {there : Place} (h : a.readings here = [⟨[], there⟩])
    (hless : there.ahead.length < here.ahead.length) :
    (many a).readings here = (many a).readings there ++ [⟨[], here⟩] := by
  rw [readings_many, h, List.flatMap_singleton, if_pos hless, followedBy_nil, List.map_id]

theorem first?_many_seq_stop (h : a.readings here = []) :
    (seq (many a) b).first? here = b.first? here := by
  rw [first?_seq, readings_many_stop h, List.findSome?_singleton, followedBy_nil, Option.map_id, id]

/-- A turn is not given up if what comes after the turns cannot be read in its place. -/
theorem first?_many_seq_turn {there : Place} (h : a.readings here = [⟨[], there⟩])
    (hless : there.ahead.length < here.ahead.length) (hb : b.first? here = none) :
    (seq (many a) b).first? here = (seq (many a) b).first? there := by
  rw [first?_seq, readings_many_turn h hless, List.findSome?_append, ← first?_seq,
    List.findSome?_singleton, hb, Option.map_none, Option.or_none]

/-! ### Runs of characters -/

/-- A run is read as a whole; where it is read otherwise, it could go on. -/
theorem exists_readings_run (p : Char → Bool) (i : Nat) (s : List Char) :
    ∃ fewer : List (Reading γ), (many (char p)).readings ⟨i, s⟩ =
        ⟨[], ⟨i + (s.takeWhile p).length, s.dropWhile p⟩⟩ :: fewer ∧
      ∀ r ∈ fewer, ∃ j x t, r = ⟨[], ⟨j, x :: t⟩⟩ ∧ p x = true := by
  induction s generalizing i with
  | nil =>
      rw [readings_many_stop (readings_char_stop (by simp))]
      exact ⟨[], rfl, nofun⟩
  | cons x s ih =>
      by_cases hx : p x = true
      · obtain ⟨fewer, hread, hfewer⟩ := ih (i + 1)
        rw [readings_many_turn (readings_char_cons hx) (Nat.lt_succ_self _), hread,
          List.takeWhile_cons_of_pos hx, List.dropWhile_cons_of_pos hx, List.length_cons,
          Nat.add_right_comm, Nat.add_assoc]
        refine ⟨fewer ++ [⟨[], ⟨i, x :: s⟩⟩], rfl, fun r hr => ?_⟩
        rcases List.mem_append.1 hr with hr | hr
        · exact hfewer r hr
        · exact ⟨i, x, s, List.mem_singleton.1 hr, hx⟩
      · rw [readings_many_stop (readings_char_stop (by simpa using hx)),
          List.takeWhile_cons_of_neg hx, List.dropWhile_cons_of_neg hx]
        exact ⟨[], rfl, nofun⟩

/-- Where nothing can follow a run that could go on, the run is taken as a whole. -/
theorem findSome?_run {β : Type} {f : Reading γ → Option β}
    (hf : ∀ i x s, p x = true → f ⟨[], ⟨i, x :: s⟩⟩ = none) (i : Nat) (s : List Char) :
    ((many (char p)).readings ⟨i, s⟩).findSome? f =
      f ⟨[], ⟨i + (s.takeWhile p).length, s.dropWhile p⟩⟩ := by
  obtain ⟨fewer, hread, hfewer⟩ := exists_readings_run (γ := γ) p i s
  have hnone : fewer.findSome? f = none := by
    rw [List.findSome?_eq_none_iff]
    intro r hr
    obtain ⟨j, x, t, rfl, hx⟩ := hfewer r hr
    exact hf j x t hx
  rw [hread, List.findSome?_cons, hnone]
  cases f ⟨[], ⟨i + (s.takeWhile p).length, s.dropWhile p⟩⟩ <;> rfl

theorem first?_run (i : Nat) (s : List Char) : (run p : Pattern γ).first? ⟨i, s⟩ =
    if s.takeWhile p = [] then none
    else some ⟨[], ⟨i + (s.takeWhile p).length, s.dropWhile p⟩⟩ := by
  unfold run
  cases s with
  | nil => rfl
  | cons x s =>
      rw [first?_char_seq_cons]
      by_cases hx : p x = true
      · obtain ⟨fewer, hread, -⟩ := exists_readings_run (γ := γ) p (i + 1) s
        rw [if_pos hx, first?, hread, List.head?_cons, List.takeWhile_cons_of_pos hx,
          List.dropWhile_cons_of_pos hx, if_neg (List.cons_ne_nil _ _), List.length_cons,
          Nat.add_right_comm, Nat.add_assoc]
      · rw [if_neg hx, List.takeWhile_cons_of_neg hx, if_pos rfl]

theorem first?_group_run_seq {name : γ}
    (hb : ∀ i x s, p x = true → b.first? ⟨i, x :: s⟩ = none) (i : Nat) (s : List Char) :
    (seq (group name (run p)) b).first? ⟨i, s⟩ =
      if s.takeWhile p = [] then none
      else (b.first? ⟨i + (s.takeWhile p).length, s.dropWhile p⟩).map fun r =>
        ⟨(name, ⟨i, i + (s.takeWhile p).length⟩) :: r.groups, r.place⟩ := by
  rw [first?_seq, readings_group, List.findSome?_map, run, readings_seq]
  cases s with
  | nil => rfl
  | cons x s =>
      by_cases hx : p x = true
      · rw [readings_char_cons hx, List.flatMap_singleton, followedBy_nil, List.map_id,
          findSome?_run, List.takeWhile_cons_of_pos hx, List.dropWhile_cons_of_pos hx,
          if_neg (List.cons_ne_nil _ _), List.length_cons, Nat.add_right_comm, Nat.add_assoc]
        · rfl
        · intro j y t hy
          rw [Function.comp_apply, hb j y t hy]
          rfl
      · rw [readings_char_stop (by simpa using hx), List.takeWhile_cons_of_neg hx, if_pos rfl]
        rfl

end Pattern

/-! ### All that is found -/

/-- A place in a text where a pattern is found: from where to where, and its groups. -/
structure Match (γ : Type) where
  span : Span
  groups : List (γ × Span)
deriving DecidableEq, Repr

/-- What was read from the index onwards. -/
def Reading.since (start : Nat) (r : Reading γ) : Match γ :=
  ⟨⟨start, r.place.index⟩, r.groups⟩

namespace Pattern

/-- All that is found of a pattern from a place onwards. Where nothing is found, and behind what
takes nothing, the search goes on at the next character. -/
def findAll (a : Pattern γ) : Place → List (Match γ)
  | ⟨i, s⟩ =>
    match a.first? ⟨i, s⟩, s with
    | none, [] => []
    | none, _ :: t => findAll a ⟨i + 1, t⟩
    | some r, [] => [r.since i]
    | some r, _ :: t =>
      r.since i ::
        if _h : r.place.ahead.length ≤ t.length then findAll a r.place else findAll a ⟨i + 1, t⟩
termination_by here => here.ahead.length

theorem findAll_nil {a : Pattern γ} {i : Nat} (h : a.first? ⟨i, []⟩ = none) :
    a.findAll ⟨i, []⟩ = [] := by
  rw [findAll.eq_def]
  simp only [h]

theorem findAll_none {a : Pattern γ} {i : Nat} {x : Char} {s : List Char}
    (h : a.first? ⟨i, x :: s⟩ = none) : a.findAll ⟨i, x :: s⟩ = a.findAll ⟨i + 1, s⟩ := by
  rw [findAll.eq_def]
  simp only [h]

theorem findAll_some {a : Pattern γ} {i : Nat} {s : List Char} {r : Reading γ}
    (h : a.first? ⟨i, s⟩ = some r) (hless : r.place.ahead.length < s.length) :
    a.findAll ⟨i, s⟩ = r.since i :: a.findAll r.place := by
  cases s with
  | nil => cases hless
  | cons x s =>
      rw [findAll.eq_def]
      simp only [h, dif_pos (Nat.le_of_lt_succ hless)]

end Pattern

end PostSearch.Text
