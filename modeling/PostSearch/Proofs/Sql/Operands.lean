import PostSearch.Sql.Statement

/-! # Operands and names of restrictions

A restriction is a shape with operands in it. `map` replaces the operands one by one and keeps the
shape; `operands` lists them from left to right. What else stands in the text of a restriction comes
from the `columns` in it, among them expressions and types, and from fixed words.

Main statements: `map` changes the operands and nothing else (`operands_map`, `columns_map`), and
two restrictions that are equal after such a change have the same columns (`columns_eq_of_map_eq`).
A restriction `Speaks` some words if it is made of comparisons with them only; this is kept
by everything that restrictions are built with. -/

namespace PostSearch.Sql

variable {ν μ : Type}

/-! ### Text queries -/

namespace TextQuery

mutual

def map (h : ν → μ) : TextQuery ν → TextQuery μ
  | .term config excluded mode value => .term (h config) excluded mode (h value)
  | .joined joint parts => .joined joint (mapAll h parts)

def mapAll (h : ν → μ) : List (TextQuery ν) → List (TextQuery μ)
  | [] => []
  | q :: qs => map h q :: mapAll h qs

end

mutual

def operands : TextQuery ν → List ν
  | .term config _ _ value => [config, value]
  | .joined _ parts => operandsAll parts

def operandsAll : List (TextQuery ν) → List ν
  | [] => []
  | q :: qs => operands q ++ operandsAll qs

end

mutual

theorem operands_map (h : ν → μ) : ∀ q : TextQuery ν, (q.map h).operands = q.operands.map h
  | .term _ _ _ _ => rfl
  | .joined _ parts => by simp only [map, operands, operandsAll_mapAll h parts]

theorem operandsAll_mapAll (h : ν → μ) :
    ∀ qs : List (TextQuery ν), operandsAll (mapAll h qs) = (operandsAll qs).map h
  | [] => rfl
  | q :: qs => by
      simp only [mapAll, operandsAll, operands_map h q, operandsAll_mapAll h qs, List.map_append]

end

mutual

/-- Values that are there can be taken back. -/
theorem map_getD_map_some (d : ν) : ∀ q : TextQuery ν, (q.map some).map (Option.getD · d) = q
  | .term _ _ _ _ => rfl
  | .joined joint parts => by rw [map, map, mapAll_getD_mapAll_some d parts]

theorem mapAll_getD_mapAll_some (d : ν) :
    ∀ qs : List (TextQuery ν), mapAll (Option.getD · d) (mapAll some qs) = qs
  | [] => rfl
  | q :: qs => by
      rw [mapAll, mapAll, map_getD_map_some d q, mapAll_getD_mapAll_some d qs]

end

theorem mapAll_eq (h : ν → μ) : ∀ qs : List (TextQuery ν), mapAll h qs = qs.map (map h)
  | [] => rfl
  | q :: qs => by rw [mapAll, mapAll_eq h qs, List.map_cons]

end TextQuery

/-! ### Atoms -/

namespace Atom

def map (h : ν → μ) : Atom ν → Atom μ
  | .verbatim s => .verbatim s
  | .flag column => .flag column
  | .isNull column => .isNull column
  | .notNull column => .notNull column
  | .compare left relation right type => .compare left relation (h right) type
  | .between column lower upper => .between column (h lower) (h upper)
  | .oneOf column values type => .oneOf column (h values) type
  | .noneOf column values type => .noneOf column (h values) type
  | .overlaps column values => .overlaps column (h values)
  | .disjoint column values => .disjoint column (h values)
  | .matchesText column query => .matchesText column (query.map h)
  | .reaches viewer => .reaches (h viewer)
  | .notBanned viewer author => .notBanned (h viewer) author

def operands : Atom ν → List ν
  | .verbatim _ | .flag _ | .isNull _ | .notNull _ => []
  | .compare _ _ right _ => [right]
  | .between _ lower upper => [lower, upper]
  | .oneOf _ values _ | .noneOf _ values _ | .overlaps _ values | .disjoint _ values => [values]
  | .matchesText _ query => query.operands
  | .reaches viewer | .notBanned viewer _ => [viewer]

/-- The columns, expressions and types that the atom is made with. -/
def columns : Atom ν → List String
  | .verbatim s => [s]
  | .flag column | .isNull column | .notNull column => [column]
  | .compare left _ _ type => left :: type.toList
  | .between column _ _ => [column]
  | .oneOf column _ type | .noneOf column _ type => [column, type ++ "[]"]
  | .overlaps column _ | .disjoint column _ => [column, "int[]"]
  | .matchesText column _ => [column]
  | .reaches _ => []
  | .notBanned _ author => [author]

/-- The words of the atom that hold columns of their own. -/
def phrases : Atom ν → List String
  | .reaches _ =>
    ["p.destination_feed_ids && array(select f.id from feeds f where (f.name = 'Directs'",
      " and f.user_id = ", " or f.uid in (select s.feed_id from subscriptions s where s.user_id = "]
  | .notBanned _ _ =>
    ["not exists (select 1 from bans b where b.user_id = ", " and b.banned_user_id = "]
  | _ => []

def allPhrases : List String :=
  (reaches ()).phrases ++ (notBanned () "").phrases

theorem phrases_subset (a : Atom ν) : a.phrases ⊆ allPhrases := by
  cases a with
  | reaches => exact List.subset_append_left _ _
  | notBanned => exact List.subset_append_right _ _
  | _ => exact List.nil_subset _

/-- The atom compares a column: it has no words of its own, and no text or other table decides it. -/
def isComparison : Atom ν → Bool
  | .verbatim _ | .matchesText _ _ | .reaches _ | .notBanned _ _ => false
  | _ => true

theorem operands_map (h : ν → μ) (a : Atom ν) : (a.map h).operands = a.operands.map h := by
  cases a with
  | matchesText column query => exact query.operands_map h
  | _ => rfl

theorem columns_map (h : ν → μ) (a : Atom ν) : (a.map h).columns = a.columns := by
  cases a <;> rfl

theorem isComparison_map (h : ν → μ) (a : Atom ν) : (a.map h).isComparison = a.isComparison := by
  cases a <;> rfl

theorem map_getD_map_some (d : ν) (a : Atom ν) : (a.map some).map (Option.getD · d) = a := by
  cases a with
  | matchesText column q => exact congrArg (Atom.matchesText column) (q.map_getD_map_some d)
  | _ => rfl

end Atom

/-! ### Restrictions -/

namespace Restriction

mutual

def map (h : ν → μ) : Restriction ν → Restriction μ
  | .const b => .const b
  | .atom a => .atom (a.map h)
  | .not f => .not (map h f)
  | .all fs => .all (mapAll h fs)
  | .any fs => .any (mapAll h fs)
  | .someRow f => .someRow (map h f)

def mapAll (h : ν → μ) : List (Restriction ν) → List (Restriction μ)
  | [] => []
  | f :: fs => map h f :: mapAll h fs

end

mutual

def atoms : Restriction ν → List (Atom ν)
  | .const _ => []
  | .atom a => [a]
  | .not f => atoms f
  | .all fs => atomsAll fs
  | .any fs => atomsAll fs
  | .someRow f => atoms f

def atomsAll : List (Restriction ν) → List (Atom ν)
  | [] => []
  | f :: fs => atoms f ++ atomsAll fs

end

def operands (f : Restriction ν) : List ν :=
  f.atoms.flatMap Atom.operands

/-- The columns, expressions and types that the restriction is made with. -/
def columns (f : Restriction ν) : List String :=
  f.atoms.flatMap Atom.columns

theorem mapAll_eq (h : ν → μ) : ∀ fs : List (Restriction ν), mapAll h fs = fs.map (map h)
  | [] => rfl
  | f :: fs => by rw [mapAll, mapAll_eq h fs, List.map_cons]

theorem atomsAll_eq : ∀ fs : List (Restriction ν), atomsAll fs = fs.flatMap atoms
  | [] => rfl
  | f :: fs => by rw [atomsAll, atomsAll_eq fs, List.flatMap_cons]

theorem texts_eq : ∀ fs : List (Restriction Placeholder), texts fs = fs.map text
  | [] => rfl
  | f :: fs => by rw [texts, texts_eq fs, List.map_cons]

mutual

theorem atoms_map (h : ν → μ) : ∀ f : Restriction ν, (f.map h).atoms = f.atoms.map (Atom.map h)
  | .const _ => rfl
  | .atom _ => rfl
  | .not f => atoms_map h f
  | .all fs => atomsAll_mapAll h fs
  | .any fs => atomsAll_mapAll h fs
  | .someRow f => atoms_map h f

theorem atomsAll_mapAll (h : ν → μ) :
    ∀ fs : List (Restriction ν), atomsAll (mapAll h fs) = (atomsAll fs).map (Atom.map h)
  | [] => rfl
  | f :: fs => by
      simp only [mapAll, atomsAll, atoms_map h f, atomsAll_mapAll h fs, List.map_append]

end

@[simp] theorem operands_map (h : ν → μ) (f : Restriction ν) :
    (f.map h).operands = f.operands.map h := by
  simp only [operands, atoms_map, List.flatMap_map, List.map_flatMap, Atom.operands_map]

@[simp] theorem columns_map (h : ν → μ) (f : Restriction ν) : (f.map h).columns = f.columns := by
  simp only [columns, atoms_map, List.flatMap_map, Atom.columns_map]

theorem columns_eq_of_map_eq {ν' : Type} {f : Restriction ν} {g : Restriction ν'} {h : ν → μ}
    {h' : ν' → μ} (e : f.map h = g.map h') : f.columns = g.columns := by
  rw [← columns_map h f, e, columns_map]

@[simp] theorem columns_atom (a : Atom ν) : (atom a).columns = a.columns := by
  simp [columns, atoms]

@[simp] theorem columns_all (fs : List (Restriction ν)) :
    (all fs).columns = fs.flatMap columns := by
  rw [columns, atoms, atomsAll_eq, List.flatMap_assoc]
  rfl

@[simp] theorem operands_all (fs : List (Restriction ν)) :
    (all fs).operands = fs.flatMap operands := by
  rw [operands, atoms, atomsAll_eq, List.flatMap_assoc]
  rfl

@[simp] theorem operands_any (fs : List (Restriction ν)) :
    (any fs).operands = fs.flatMap operands :=
  operands_all fs

/-! ### Words that restrictions are made with -/

/-- The restriction is made of comparisons with the words only. -/
def Speaks (words : List String) (f : Restriction ν) : Prop :=
  ∀ a ∈ f.atoms, a.isComparison ∧ a.columns ⊆ words

variable {words : List String}

theorem Speaks.columns_subset {f : Restriction ν} (h : f.Speaks words) : f.columns ⊆ words := by
  intro w hw
  obtain ⟨a, ha, hwa⟩ := List.mem_flatMap.1 hw
  exact (h a ha).2 hwa

theorem Speaks.mono {f : Restriction ν} {words' : List String} (h : f.Speaks words)
    (hs : words ⊆ words') : f.Speaks words' :=
  fun a ha => ⟨(h a ha).1, List.Subset.trans (h a ha).2 hs⟩

theorem speaks_const (b : Bool) : (const b : Restriction ν).Speaks words := by
  intro a ha
  cases ha

theorem speaks_atom {a : Atom ν} (ht : a.isComparison) (hc : a.columns ⊆ words) :
    (atom a).Speaks words := by
  intro b hb
  obtain rfl : b = a := List.mem_singleton.1 hb
  exact ⟨ht, hc⟩

theorem speaks_not {f : Restriction ν} (h : f.Speaks words) : (not f).Speaks words :=
  h

theorem speaks_someRow {f : Restriction ν} (h : f.Speaks words) : (someRow f).Speaks words :=
  h

theorem speaks_all {fs : List (Restriction ν)} (h : ∀ f ∈ fs, f.Speaks words) :
    (all fs).Speaks words := by
  intro a ha
  rw [atoms, atomsAll_eq] at ha
  obtain ⟨f, hf, haf⟩ := List.mem_flatMap.1 ha
  exact h f hf a haf

theorem speaks_any {fs : List (Restriction ν)} (h : ∀ f ∈ fs, f.Speaks words) :
    (any fs).Speaks words :=
  speaks_all h

end Restriction

end PostSearch.Sql
