import PostSearch.Proofs.Sql.Sources

/-! # Aliases

A column is written with the alias of its table and a dot before it. `Introduces` says of the lines
of a selection that every alias in them is introduced by a line that names its table, and that joins
use only what has been introduced by then.

Main statement: what it takes for a selection to introduce its aliases
(`Selection.introduces_lines`). -/

namespace PostSearch.Sql

/-! ### Places in a list -/

section

variable {α : Type} {P : List α → α → Prop} {x : α} {xs ys : List α}

/-- `P` holds of every item and what stands before it. -/
def EachAfter (P : List α → α → Prop) (xs : List α) : Prop :=
  ∀ before x after, xs = before ++ x :: after → P before x

theorem eachAfter_nil : EachAfter P [] := by
  intro before x after h
  simp at h

theorem eachAfter_cons (h : P [] x) (hs : EachAfter (fun before => P (x :: before)) xs) :
    EachAfter P (x :: xs) := by
  intro before y after e
  cases before with
  | nil =>
      obtain ⟨rfl, -⟩ := List.cons.inj e
      exact h
  | cons z before =>
      obtain ⟨rfl, e'⟩ := List.cons.inj e
      exact hs before y after e'

theorem eachAfter_append (hx : EachAfter P xs)
    (hy : EachAfter (fun before => P (xs ++ before)) ys) : EachAfter P (xs ++ ys) := by
  induction xs generalizing P with
  | nil => exact hy
  | cons x xs ih =>
      refine eachAfter_cons (hx [] x xs rfl) (ih (fun before y after e => ?_) hy)
      exact hx (x :: before) y after (congrArg (List.cons x) e)

theorem eachAfter_of_forall (h : ∀ before, ∀ x ∈ xs, P before x) : EachAfter P xs := by
  rintro before x after rfl
  exact h before x (List.mem_append_right _ List.mem_cons_self)

theorem eachAfter_map {β : Type} {f : β → α} {ys : List β}
    (h : EachAfter (fun before y => P (before.map f) (f y)) ys) : EachAfter P (ys.map f) := by
  intro before x after e
  obtain ⟨before', rest, rfl, rfl, e'⟩ := List.map_eq_append_iff.1 e
  obtain ⟨y, after', rfl, rfl, -⟩ := List.map_eq_cons_iff.1 e'
  exact h before' y after' rfl

end

/-! ### Reading aliases -/

def isNameChar (c : Char) : Bool :=
  c.isAlphanum || c == '_'

/-- The names directly before a dot, `name` being what has been read of the name so far. -/
def qualifiersFrom (name : List Char) : List Char → List String
  | [] => []
  | c :: s =>
    if c = '.' then String.ofList name :: qualifiersFrom [] s
    else qualifiersFrom (if isNameChar c then name ++ [c] else []) s

/-- The names directly before a dot. -/
def qualifiers (s : List Char) : List String :=
  qualifiersFrom [] s

/-- The aliases that tables of a selection go by. -/
def aliases : List String :=
  ["p", "u", "c", "cl", "a", "pc", "cc"]

/-- The aliases that lines introduce. -/
def introducedBy (lines : List String) : List String :=
  (lines.filterMap source?).map Prod.snd

/-- The line uses no aliases but these. -/
def UsesOnly (known : List String) (line : String) : Prop :=
  ∀ x ∈ qualifiers line.toList, x ∈ aliases → x ∈ known

/-- All aliases are introduced, those in a join by this join or a line before. -/
structure Introduces (member : List String) : Prop where
  used : ∀ line ∈ member, UsesOnly (introducedBy member) line
  inOrder : EachAfter (fun before line => (source? line).isSome →
    UsesOnly (introducedBy (before ++ [line])) line) member

theorem qualifiersFrom_eq_nil : ∀ (name : List Char) {s : List Char}, '.' ∉ s →
    qualifiersFrom name s = []
  | _, [], _ => rfl
  | name, c :: s, h => by
      rw [List.mem_cons, not_or] at h
      rw [qualifiersFrom, if_neg (Ne.symm h.1), qualifiersFrom_eq_nil _ h.2]

theorem qualifiersFrom_append {d : Char} (hd : d ≠ '.' ∧ isNameChar d = false) :
    ∀ name s t, qualifiersFrom name (s ++ d :: t) = qualifiersFrom name s ++ qualifiersFrom [] t
  | name, [], t => by
      simp only [List.nil_append, qualifiersFrom, if_neg hd.1, hd.2]
      rfl
  | name, c :: s, t => by
      rw [List.cons_append, qualifiersFrom, qualifiersFrom]
      split
      · rw [qualifiersFrom_append hd, List.cons_append]
      · rw [qualifiersFrom_append hd]

theorem reading_qualifiers : Reading qualifiers where
  append s d t hd := by
    refine qualifiersFrom_append ?_ [] s t
    simp only [separators, List.mem_cons, List.not_mem_nil, or_false] at hd
    rcases hd with rfl | rfl | rfl <;> decide
  plain s hs := by
    refine qualifiersFrom_eq_nil [] fun h => ?_
    have := List.all_eq_true.1 hs _ h
    simp at this

/-! ### Lines -/

theorem introducedBy_append (k l : List String) :
    introducedBy (k ++ l) = introducedBy k ++ introducedBy l := by
  rw [introducedBy, List.filterMap_append, List.map_append]
  rfl

theorem usesOnly_ofList {known : List String} {s : List Char}
    (h : ∀ x ∈ qualifiers s, x ∈ aliases → x ∈ known) : UsesOnly known (String.ofList s) := by
  rwa [UsesOnly, String.toList_ofList]

theorem UsesOnly.mono {known known' : List String} {line : String} (h : UsesOnly known line)
    (hs : known ⊆ known') : UsesOnly known' line :=
  fun x hq hx => hs (h x hq hx)

theorem usesOnly_append {known : List String} {words rest : String} (hc : closesWord words.toList)
    (hw : UsesOnly known words) (hr : UsesOnly known rest) : UsesOnly known (words ++ rest) := by
  intro x hq hx
  rw [String.toList_append, reading_qualifiers.append_of_closes _ hc, List.mem_append] at hq
  rcases hq with hq | hq
  · exact hw x hq hx
  · exact hr x hq hx

instance (known : List String) (line : String) : Decidable (UsesOnly known line) :=
  inferInstanceAs (Decidable (∀ x ∈ qualifiers line.toList, x ∈ aliases → x ∈ known))

/-! ### Selections -/

/-- The alias that a join introduces. -/
def Join.shortName (j : Join) : String :=
  j.source.2

theorem introducedBy_joins (js : List Join) :
    introducedBy (js.map Join.text) = js.map Join.shortName := by
  induction js with
  | nil => rfl
  | cons j js ih =>
      rw [List.map_cons, ← List.singleton_append, introducedBy_append, ih, introducedBy,
        List.filterMap_cons, Selection.source?_join]
      rfl

namespace Selection

variable {s : Selection}

theorem introducedBy_heads (sort : SortKey) :
    introducedBy ["select p.uid, " ++ sort.column ++ " as date, p.id", "from posts p",
      "join users u on p.user_id = u.uid"] = ["p", "u"] := by
  simp only [introducedBy, List.filterMap_cons, List.filterMap_nil, source?_select, source?_from,
    source?_users, List.map_cons, List.map_nil]

/-- The aliases that are known where the tables are joined. -/
def known (js : List Join) : List String :=
  ["p", "u"] ++ js.map Join.shortName

theorem introducedBy_lines (s : Selection) : introducedBy s.lines = known s.joins := by
  have hconditions : introducedBy ["where " ++ s.rows.text,
      "group by p.uid, " ++ s.sort.column ++ ", p.id", "having " ++ s.groups.text] = [] := by
    simp only [introducedBy, List.filterMap_cons, List.filterMap_nil, source?_where,
      source?_groupBy, source?_having, List.map_nil]
  rw [lines, introducedBy_append, introducedBy_append, introducedBy_heads, introducedBy_joins,
    hconditions, List.append_nil]
  rfl

theorem known_mono {js ks : List Join} (h : js ⊆ ks) : known js ⊆ known ks := by
  intro x hx
  rcases List.mem_append.1 hx with hx | hx
  · exact List.mem_append_left _ hx
  · exact List.mem_append_right _ (List.map_subset _ h hx)

theorem usesOnly_select (sort : SortKey) :
    UsesOnly ["p"] ("select p.uid, " ++ sort.column ++ " as date, p.id") := by
  cases sort <;> decide +kernel

theorem usesOnly_groupBy (sort : SortKey) :
    UsesOnly ["p"] ("group by p.uid, " ++ sort.column ++ ", p.id") := by
  cases sort <;> decide +kernel

theorem usesOnly_from : UsesOnly [] "from posts p" :=
  usesOnly_ofList (by decide)

theorem usesOnly_users : UsesOnly ["p", "u"] "join users u on p.user_id = u.uid" :=
  usesOnly_ofList (by decide)

theorem usesOnly_where {xs : List String} {s : String} (h : UsesOnly xs s) :
    UsesOnly xs ("where " ++ s) := by
  have hw : UsesOnly [] "where " := usesOnly_ofList (by decide)
  exact usesOnly_append (by decide_cbv) (hw.mono (List.nil_subset _)) h

theorem usesOnly_having {xs : List String} {s : String} (h : UsesOnly xs s) :
    UsesOnly xs ("having " ++ s) := by
  have hw : UsesOnly [] "having " := usesOnly_ofList (by decide)
  exact usesOnly_append (by decide_cbv) (hw.mono (List.nil_subset _)) h

/-- A selection introduces its aliases if its conditions use only what is joined, and the joins use
only what is known by then. -/
theorem introduces_lines {s : Selection} (hrows : UsesOnly (known s.joins) s.rows.text)
    (hgroups : UsesOnly (known s.joins) s.groups.text)
    (hjoins : EachAfter (fun before j => UsesOnly (known (before ++ [j])) j.text) s.joins) :
    Introduces s.lines := by
  have hp : ["p"] ⊆ known s.joins := List.cons_subset_cons _ (List.nil_subset _)
  have hpu : ["p", "u"] ⊆ known s.joins := List.subset_append_left _ _
  constructor
  · have hjoin : ∀ j ∈ s.joins, UsesOnly (known s.joins) j.text := by
      intro j hj
      obtain ⟨before, after, e⟩ := List.append_of_mem hj
      refine (hjoins before j after e).mono (known_mono ?_)
      rw [e, List.append_cons before j after]
      exact List.subset_append_left _ _
    rw [introducedBy_lines]
    simp only [lines, List.forall_mem_append, List.forall_mem_cons, List.forall_mem_map]
    refine ⟨⟨⟨?_, ?_, ?_, ?_⟩, hjoin⟩, usesOnly_where hrows, ?_, usesOnly_having hgroups, ?_⟩
    · exact (usesOnly_select s.sort).mono hp
    · exact usesOnly_from.mono (List.nil_subset _)
    · exact usesOnly_users.mono hpu
    · exact fun l hl => absurd hl List.not_mem_nil
    · exact (usesOnly_groupBy s.sort).mono hp
    · exact fun l hl => absurd hl List.not_mem_nil
  · have hnone : ∀ {l : String} {Q : Prop}, source? l = none → (source? l).isSome → Q := by
      intro l Q h h'
      rw [h] at h'
      cases h'
    refine eachAfter_append (eachAfter_append ?_ ?_) ?_
    · refine eachAfter_cons (hnone (source?_select s.sort)) (eachAfter_cons ?_
        (eachAfter_cons ?_ eachAfter_nil))
      · exact fun _ => usesOnly_from.mono (List.nil_subset _)
      · intro _
        rw [List.cons_append, List.cons_append, List.nil_append, introducedBy_heads]
        exact usesOnly_users
    · refine eachAfter_map fun before j after e _ => ?_
      have hk : introducedBy (["select p.uid, " ++ s.sort.column ++ " as date, p.id",
          "from posts p", "join users u on p.user_id = u.uid"] ++ before.map Join.text ++
          [j.text]) = known (before ++ [j]) := by
        rw [List.append_assoc, introducedBy_append, introducedBy_heads, ← List.map_singleton,
          ← List.map_append, introducedBy_joins]
        rfl
      rw [hk]
      exact hjoins before j after e
    · refine eachAfter_cons (hnone (source?_where _)) (eachAfter_cons ?_
        (eachAfter_cons (hnone (source?_having _)) eachAfter_nil))
      exact hnone (source?_groupBy s.sort)

end Selection

end PostSearch.Sql
