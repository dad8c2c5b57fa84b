import PostSearch.Proofs.Sql.Alike
import PostSearch.Proofs.Sql.Junction

/-! # Restrictions that depend on the row

Whether a table is joined depends on whether the text of a restriction depends on the row. A
restriction is solid if this can be told from its shape: there is no constant in it, and nothing
empty is taken together.

Main statement: the text of a solid restriction depends on the row (`isNontrivial_text`). -/

namespace PostSearch.Sql

variable {ν μ : Type}

/-! ### Solid restrictions -/

/-- The text of the atom depends on the row whatever its operands are. -/
def Atom.isSolid : Atom ν → Bool
  | .verbatim s => isNontrivial s
  | .flag column => isNontrivial column
  | _ => true

mutual

/-- The text of the restriction depends on the row whatever its operands are. -/
def Restriction.isSolid : Restriction ν → Bool
  | .const _ => false
  | .atom a => a.isSolid
  | .not f => isSolid f
  | .all fs => !fs.isEmpty && areSolid fs
  | .any fs => !fs.isEmpty && areSolid fs
  | .someRow f => isSolid f

def Restriction.areSolid : List (Restriction ν) → Bool
  | [] => true
  | f :: fs => isSolid f && areSolid fs

end

/-! ### Operands do not matter -/

theorem Atom.isSolid_map (h : ν → μ) (a : Atom ν) : (a.map h).isSolid = a.isSolid := by
  cases a <;> rfl

namespace Restriction

mutual

theorem isSolid_map (h : ν → μ) : ∀ f : Restriction ν, (f.map h).isSolid = f.isSolid
  | .const _ => rfl
  | .atom a => a.isSolid_map h
  | .not f => isSolid_map h f
  | .all fs => by
      rw [map, isSolid, isSolid, areSolid_mapAll h fs, mapAll_eq, List.isEmpty_map]
  | .any fs => by
      rw [map, isSolid, isSolid, areSolid_mapAll h fs, mapAll_eq, List.isEmpty_map]
  | .someRow f => isSolid_map h f

theorem areSolid_mapAll (h : ν → μ) :
    ∀ fs : List (Restriction ν), areSolid (mapAll h fs) = areSolid fs
  | [] => rfl
  | f :: fs => by rw [mapAll, areSolid, areSolid, isSolid_map h f, areSolid_mapAll h fs]

end

theorem areSolid_iff : ∀ {fs : List (Restriction ν)},
    areSolid fs = true ↔ ∀ f ∈ fs, f.isSolid = true
  | [] => by simp [areSolid]
  | f :: fs => by rw [areSolid, Bool.and_eq_true, areSolid_iff, List.forall_mem_cons]

end Restriction

/-! ### Their texts -/

def hasBlank (s : String) : Bool :=
  s.toList.contains ' '

theorem hasBlank_ofList {s : List Char} (h : s.contains ' ' = true) :
    hasBlank (String.ofList s) := by
  rwa [hasBlank, String.toList_ofList]

theorem hasBlank_left {s : String} (h : hasBlank s) (t : String) : hasBlank (s ++ t) := by
  rw [hasBlank, List.contains_iff_mem] at h ⊢
  rw [String.toList_append]
  exact List.mem_append_left _ h

theorem hasBlank_right (s : String) {t : String} (h : hasBlank t) : hasBlank (s ++ t) := by
  rw [hasBlank, List.contains_iff_mem] at h ⊢
  rw [String.toList_append]
  exact List.mem_append_right _ h

theorem isNontrivial_of_hasBlank {s : String} (h : hasBlank s) : isNontrivial s = true := by
  rw [isNontrivial_iff]
  rw [hasBlank] at h
  refine ⟨?_, ?_, ?_⟩ <;> rintro rfl <;> rw [String.toList_ofList] at h <;> cases h

theorem negate_of_hasBlank {s : String} (h : hasBlank s) : negate s = "not (" ++ s ++ ")" := by
  obtain ⟨-, htrue, hfalse⟩ := isNontrivial_iff.1 (isNontrivial_of_hasBlank h)
  unfold negate
  rw [if_neg htrue, if_neg hfalse]
  exact if_pos h

theorem Atom.hasBlank_text (a : Atom Placeholder) (h : ∀ s, a ≠ .verbatim s ∧ a ≠ .flag s) :
    hasBlank a.text := by
  cases a with
  | verbatim s => exact absurd rfl (h s).1
  | flag s => exact absurd rfl (h s).2
  | isNull column => exact hasBlank_right column (hasBlank_ofList rfl)
  | notNull column => exact hasBlank_right column (hasBlank_ofList rfl)
  | compare left =>
      have hb := hasBlank_right left (hasBlank_ofList (s := [' ']) rfl)
      exact hasBlank_left (hasBlank_left (hasBlank_left hb _) _) _
  | between column =>
      have hb : hasBlank (column ++ " between ") := hasBlank_right column (hasBlank_ofList rfl)
      exact hasBlank_left (hasBlank_left (hasBlank_left hb _) _) _
  | oneOf column =>
      have hb : hasBlank (column ++ " = any(") := hasBlank_right column (hasBlank_ofList rfl)
      exact hasBlank_left (hasBlank_left hb _) _
  | noneOf column =>
      have hb : hasBlank (column ++ " <> all(") := hasBlank_right column (hasBlank_ofList rfl)
      exact hasBlank_left (hasBlank_left hb _) _
  | overlaps column =>
      have hb : hasBlank ("(" ++ column ++ " && ") := hasBlank_right _ (hasBlank_ofList rfl)
      exact hasBlank_left (hasBlank_left hb _) _
  | disjoint column =>
      have hb : hasBlank ("(not " ++ column ++ " && ") := hasBlank_right _ (hasBlank_ofList rfl)
      exact hasBlank_left (hasBlank_left hb _) _
  | matchesText column =>
      have hb : hasBlank (column ++ " @@ ") := hasBlank_right column (hasBlank_ofList rfl)
      exact hasBlank_left hb _
  | reaches =>
      have hb : hasBlank " and f.user_id = " := hasBlank_ofList rfl
      exact hasBlank_left (hasBlank_left (hasBlank_left (hasBlank_left (hasBlank_left
        (hasBlank_right _ hb) _) _) _) _) _
  | notBanned =>
      have hb : hasBlank "not exists (select 1 from bans b where b.user_id = " :=
        hasBlank_ofList rfl
      exact hasBlank_left (hasBlank_left (hasBlank_left (hasBlank_left hb _) _) _) _

theorem Atom.isNontrivial_text (a : Atom Placeholder) (h : a.isSolid = true) :
    isNontrivial a.text = true := by
  cases a with
  | verbatim | flag => exact h
  | _ => exact isNontrivial_of_hasBlank (hasBlank_text _ fun s => ⟨nofun, nofun⟩)

theorem isNontrivial_notGroup (s : String) : isNontrivial ("not (" ++ s ++ ")") = true := by
  have hb : hasBlank "not (" := hasBlank_ofList rfl
  exact isNontrivial_of_hasBlank (hasBlank_left (hasBlank_left hb _) _)

theorem isNontrivial_not (s : String) : isNontrivial ("not " ++ s) = true := by
  have hb : hasBlank "not " := hasBlank_ofList rfl
  exact isNontrivial_of_hasBlank (hasBlank_left hb _)

theorem isNontrivial_someRow (s : String) : isNontrivial ("bool_or(" ++ s ++ ")") = true := by
  have hb : beginsApart "bool_or(" := by
    rw [beginsApart, String.toList_ofList]
    rfl
  exact isNontrivial_of_beginsApart (beginsApart_append (beginsApart_append hb _) _)

theorem isNontrivial_negate {s : String} (h : isNontrivial s = true) :
    isNontrivial (negate s) = true := by
  obtain ⟨-, htrue, hfalse⟩ := isNontrivial_iff.1 h
  rw [negate, if_neg htrue, if_neg hfalse]
  split
  · exact isNontrivial_notGroup s
  · exact isNontrivial_not s

namespace Restriction

theorem texts_ne_nil {fs : List (Restriction Placeholder)} (h : (!fs.isEmpty) = true) :
    texts fs ≠ [] := by
  cases fs with
  | nil => cases h
  | cons f fs =>
      rw [texts]
      exact List.cons_ne_nil _ _

mutual

theorem isNontrivial_text : ∀ f : Restriction Placeholder, f.isSolid = true →
    isNontrivial f.text = true
  | .const _, h => nomatch h
  | .atom a, h => by
      rw [text]
      exact a.isNontrivial_text h
  | .not f, h => by
      rw [text]
      exact isNontrivial_negate (isNontrivial_text f h)
  | .all fs, h => by
      rw [isSolid, Bool.and_eq_true] at h
      rw [text]
      exact isNontrivial_conjoin (texts_ne_nil h.1) (isNontrivial_texts fs h.2)
  | .any fs, h => by
      rw [isSolid, Bool.and_eq_true] at h
      rw [text]
      exact isNontrivial_disjoin (texts_ne_nil h.1) (isNontrivial_texts fs h.2)
  | .someRow f, h => by
      rw [text, if_pos (isNontrivial_text f h)]
      exact isNontrivial_someRow _

theorem isNontrivial_texts : ∀ fs : List (Restriction Placeholder), areSolid fs = true →
    ∀ s ∈ texts fs, isNontrivial s = true
  | [], _, s, hs => by
      rw [texts] at hs
      cases hs
  | f :: fs, h, s, hs => by
      rw [areSolid, Bool.and_eq_true] at h
      rw [texts, List.mem_cons] at hs
      rcases hs with rfl | hs
      · exact isNontrivial_text f h.1
      · exact isNontrivial_texts fs h.2 s hs

end

end Restriction

end PostSearch.Sql
