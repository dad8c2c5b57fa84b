import Mathlib.Data.List.Induction
import PostSearch.Proofs.Except
import PostSearch.Settings.Sources

/-! # What settings hold

Settings are stored one value at a time, and of several values under a name the last one counts
(`latest?`). `Holds` says that settings hold the latest of some entries under every name that is
known, and nothing under other names. Storing a value keeps to that as long as its name is not
sealed (`Holds.putNamed`). Where a sealed name is met, or an action is called whose place was taken,
the error is one that settings by themselves never have (`Error.IsForeign`). -/

namespace PostSearch.Settings

open Toml (Library)

variable {α V : Type} [Library V] {name : String} {s : Settings V} {v : V}
  {entries : Toml.Document V}

/-! ### Declared names -/

def isDeclared (name : String) : Bool :=
  (Field.ofName? name).isSome

theorem isDeclared_iff : isDeclared name = true ↔ ∃ f : Field, f.name = name := by
  constructor
  · intro h
    obtain ⟨f, hf⟩ := Option.isSome_iff_exists.1 h
    exact ⟨f, of_decide_eq_true (List.find?_some (p := fun f : Field => decide (f.name = name)) hf)⟩
  · rintro ⟨f, rfl⟩
    rw [isDeclared, Field.ofName?_name]
    rfl

theorem not_mem_sealedNames_of_isDeclared (h : isDeclared name = true) : name ∉ sealedNames := by
  obtain ⟨f, rfl⟩ := isDeclared_iff.1 h
  cases f <;> decide

theorem actionName_ne_of_isDeclared (h : isDeclared name = true) (action : Action) :
    name ≠ action.name := by
  obtain ⟨f, rfl⟩ := isDeclared_iff.1 h
  cases f <;> cases action <;> decide

/-! ### Latest values -/

theorem lookup_cons_ite (name key : String) (a : α) (xs : List (String × α)) :
    ((key, a) :: xs).lookup name = if name = key then some a else xs.lookup name := by
  rw [List.lookup_cons]
  by_cases h : name = key
  · rw [beq_iff_eq.2 h, if_pos h]
  · rw [beq_eq_false_iff_ne.2 h, if_neg h]

/-- The value that was given last under a name. -/
def latest? (name : String) (entries : List (String × α)) : Option α :=
  entries.reverse.lookup name

theorem latest?_append (name : String) (xs ys : List (String × α)) :
    latest? name (xs ++ ys) = (latest? name ys).or (latest? name xs) := by
  rw [latest?, List.reverse_append, List.lookup_append]
  rfl

theorem latest?_concat (name : String) (xs : List (String × α)) (key : String) (a : α) :
    latest? name (xs ++ [(key, a)]) = if name = key then some a else latest? name xs := by
  rw [latest?_append, latest?, List.reverse_singleton, lookup_cons_ite]
  split <;> rfl

theorem latest?_eq_none {xs : List (String × α)} : latest? name xs = none ↔ ∀ x ∈ xs, x.1 ≠ name := by
  rw [latest?, List.lookup_eq_none_iff]
  simp only [List.mem_reverse, bne_iff_ne, ne_comm]

theorem latest?_filter {p : String → Bool} (h : p name = true) (xs : List (String × α)) :
    latest? name (xs.filter fun x => p x.1) = latest? name xs := by
  induction xs using List.reverseRecOn with
  | nil => rfl
  | append_singleton xs x ih =>
      obtain ⟨key, a⟩ := x
      rw [List.filter_append, latest?_concat]
      by_cases hkey : p key = true
      · have hfilter : [(key, a)].filter (fun x => p x.1) = [(key, a)] :=
          List.filter_eq_self.2 fun x hx => List.mem_singleton.1 hx ▸ hkey
        rw [hfilter, latest?_concat, ih]
      · have hfilter : [(key, a)].filter (fun x => p x.1) = [] :=
          List.filter_eq_nil_iff.2 fun x hx => List.mem_singleton.1 hx ▸ hkey
        have hne : name ≠ key := by
          rintro rfl
          exact hkey h
        rw [hfilter, List.append_nil, ih, if_neg hne]

/-! ### Stored values -/

theorem put_of_not_sealed (hsealed : name ∉ sealedNames) (s : Settings V) (v : V) :
    s.put name v = .ok ⟨withValue name v s.stored⟩ := by
  simp only [sealedNames, List.mem_cons, List.not_mem_nil, or_false, not_or] at hsealed
  obtain ⟨hkind, hcontents, hreferences⟩ := hsealed
  unfold put
  rw [if_neg hkind, if_neg hreferences, if_neg hcontents]

theorem lookup_withValue (name key : String) (v : α) (xs : List (String × α)) :
    (withValue key v xs).lookup name = if name = key then some v else xs.lookup name := by
  induction xs with
  | nil => exact lookup_cons_ite name key v []
  | cons x xs ih =>
      obtain ⟨k, w⟩ := x
      rw [withValue]
      by_cases hk : k = key
      · rw [if_pos hk, lookup_cons_ite, lookup_cons_ite, hk]
        split <;> rfl
      · rw [if_neg hk, lookup_cons_ite, lookup_cons_ite, ih]
        by_cases h : name = key
        · have hne : name ≠ k := fun e => hk (e ▸ h)
          rw [if_neg hne, if_pos h, if_pos h]
        · rw [if_neg h, if_neg h]

omit [Library V] in
/-- The settings hold the latest of the entries under names that are known, and nothing else. -/
def Holds (s : Settings V) (entries : List (String × V)) : Prop :=
  ∀ name, s.stored.lookup name = if isKnown name then latest? name entries else none

/-- The value that the entries, or else the standard settings, give a name. -/
def given? (entries : List (String × V)) (name : String) : Option V :=
  (latest? name entries).or ((Field.ofName? name).map standardValue)

namespace Holds

omit [Library V] in
theorem standard : Holds (.standard : Settings V) [] := by
  intro name
  cases isKnown name <;> rfl

omit [Library V] in
theorem knows (h : Holds s entries) (name : String) : s.knows name = isKnown name := by
  rw [Settings.knows, h name]
  cases isKnown name <;> rfl

theorem value (h : Holds s entries) (f : Field) :
    s.value f = (latest? f.name entries).getD (standardValue f) := by
  rw [Settings.value, h f.name, if_pos (isKnown_fieldName f)]

theorem valueOf? (h : Holds s entries) (hknown : isKnown name = true)
    (hsealed : name ∉ sealedNames) : s.valueOf? name = given? entries name := by
  rw [Settings.valueOf?, if_neg hsealed, h name, if_pos hknown, given?]
  cases latest? name entries <;> rfl

/-- An action can be carried out if nothing was given under its name. -/
theorem need (h : Holds s entries) (action : Action) : s.need action =
    match latest? action.name entries with
    | none => .ok ()
    | some v => .error (.occupied (Library.kindName v)) := by
  have hknown : isKnown action.name = true := by cases action <;> decide
  have hlookup : s.stored.lookup action.name = latest? action.name entries :=
    (h action.name).trans (if_pos hknown)
  cases hlatest : latest? action.name entries <;> simp only [Settings.need, hlookup, hlatest]

theorem put (h : Holds s entries) (hsealed : name ∉ sealedNames) (hknown : isKnown name = true)
    (v : V) : ∃ t, s.put name v = .ok t ∧ Holds t (entries ++ [(name, v)]) := by
  refine ⟨⟨withValue name v s.stored⟩, put_of_not_sealed hsealed s v, fun key => ?_⟩
  rw [lookup_withValue, latest?_concat, h key]
  by_cases hkey : key = name
  · rw [if_pos hkey, if_pos hkey, if_pos (hkey ▸ hknown)]
  · rw [if_neg hkey, if_neg hkey]

/-- Storing adds an entry, which counts if its name is known. -/
theorem putNamed (h : Holds s entries) (hsealed : name ∉ sealedNames) (v : V) :
    ∃ t, s.putNamed name v = .ok t ∧ Holds t (entries ++ [(name, v)]) := by
  rw [Settings.putNamed, h.knows]
  by_cases hknown : isKnown name = true
  · rw [if_pos hknown]
    exact h.put hsealed hknown v
  · rw [if_neg hknown]
    refine ⟨s, rfl, fun key => ?_⟩
    rw [h key, latest?_concat]
    by_cases hkey : key = name
    · rw [hkey, if_neg hknown, if_neg hknown]
    · rw [if_neg hkey]

end Holds

/-! ### Names that are no settings -/

/-- The error comes from a value under a name that is known and no setting. -/
def Error.IsForeign : Error → Prop
  | .occupied _ | .sealed | .readOnly => True
  | _ => False

theorem put_contents (h : Library.entries? v = none) : s.put contentsKey v = .error .sealed := by
  rw [put, if_neg (by decide), if_neg (by decide), if_pos rfl, h]

theorem putNamed_sealed (hsealed : name ∈ sealedNames)
    (hcontents : name = contentsKey → Library.entries? v = none) :
    ∃ e, s.putNamed name v = .error e ∧ e.IsForeign := by
  have hknown : ∀ name ∈ sealedNames, isKnown name = true := by decide
  rw [putNamed, knows, hknown name hsealed, Bool.true_or, if_pos rfl]
  simp only [sealedNames, List.mem_cons, List.not_mem_nil, or_false] at hsealed
  rcases hsealed with rfl | rfl | rfl
  · exact ⟨.sealed, rfl, trivial⟩
  · exact ⟨.sealed, put_contents (hcontents rfl), trivial⟩
  · exact ⟨.readOnly, rfl, trivial⟩

end PostSearch.Settings
