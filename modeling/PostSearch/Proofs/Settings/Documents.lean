import PostSearch.Proofs.Settings.Stored

/-! # Documents that settings take over

Gathering settings reads documents until one cannot be read, takes over those that were read, one
after the other, and goes on to the environment if all could be read (`load_eq`). The documents
amount to the last value under every name, unless one of them has a sealed name, or one that another
one follows gives a value in the place of merging (`IsOrderly`); then gathering fails. -/

namespace PostSearch.Settings

open Toml (Library)

variable {V : Type} [Library V] {s t : Settings V} {files : Files} {entries d : Toml.Document V}
  {ds : List (Toml.Document V)}

/-! ### Reading -/

variable (V) in
/-- The document in the file of a path, if the file is there. -/
def documentAt? (files : Files) (path : Path) : Except Error (Option (Toml.Document V)) := do
  match ← (files.read? path).mapError .place with
  | none => return none
  | some text => return some (← (Library.read text).mapError .file)

variable (V) in
/-- The document in the first file that is there. -/
def firstDocument? (files : Files) : List Path → Except Error (Option (Toml.Document V))
  | [] => .ok none
  | path :: paths => do
    match ← documentAt? V files path with
    | some d => return some d
    | none => firstDocument? files paths

variable (V) in
/-- The documents of groups of files up to the first that cannot be read, and why it cannot. -/
def documents (files : Files) : List (List Path) → List (Toml.Document V) × Option Error
  | [] => ([], none)
  | paths :: groups =>
    match firstDocument? V files paths with
    | .error e => ([], some e)
    | .ok none => documents files groups
    | .ok (some d) => (d :: (documents files groups).1, (documents files groups).2)

theorem mergeFirst_eq (s : Settings V) (files : Files) : ∀ paths, s.mergeFirst files paths = do
    match ← firstDocument? V files paths with
    | none => .ok s
    | some d => s.merge d
  | [] => rfl
  | path :: paths => by
      have ih := mergeFirst_eq s files paths
      rw [mergeFirst, firstDocument?, documentAt?]
      rcases files.read? path with e | _ | text
      · rfl
      · exact ih
      · change (((Library.read text).mapError .file >>= s.merge) : Except Error (Settings V)) =
          (((Library.read text).mapError .file >>= fun d => pure (some d)) >>= _) >>= _
        cases (Library.read text : Except Toml.Error (Toml.Document V)) <;> rfl

/-- What follows the documents runs if all of them could be read. -/
theorem foldlM_mergeFirst (files : Files) (k : Settings V → Except Error (Settings V)) :
    ∀ (groups : List (List Path)) (s : Settings V),
      (groups.foldlM (fun s paths => s.mergeFirst files paths) s >>= k) = do
        let t ← (documents V files groups).1.foldlM merge s
        match (documents V files groups).2 with
        | some e => .error e
        | none => k t
  | [], _ => rfl
  | paths :: groups, s => by
      rw [List.foldlM_cons, mergeFirst_eq, documents]
      rcases firstDocument? V files paths with e | _ | d
      · rfl
      · exact foldlM_mergeFirst files k groups s
      · have ih := foldlM_mergeFirst files k groups
        change (s.merge d >>= fun t => groups.foldlM _ t) >>= k = List.foldlM merge s (d :: _) >>= _
        rw [List.foldlM_cons, bind_assoc, bind_assoc]
        exact bind_congr ih

theorem load_eq (files : Files) (environment : Environment) (named : Option Path) :
    load (V := V) files environment named = (do
      let s ← (documents V files (fileGroups named)).1.foldlM merge standard
      match (documents V files (fileGroups named)).2 with
      | some e => .error e
      | none => s.applyEnvironment environment) :=
  foldlM_mergeFirst files (applyEnvironment · environment) (fileGroups named) standard

/-! ### Merging -/

namespace Holds

/-- All entries of a document are stored if none of their names is sealed. -/
theorem foldlM_putNamed : ∀ {d : Toml.Document V} {s : Settings V} {entries : Toml.Document V},
    Holds s entries → (∀ x ∈ d, x.1 ∉ sealedNames) →
      ∃ t, d.foldlM (fun s (name, v) => s.putNamed name v) s = .ok t ∧ Holds t (entries ++ d)
  | [], s, entries, h, _ => ⟨s, rfl, (List.append_nil entries).symm ▸ h⟩
  | x :: d, s, entries, h, hd => by
      obtain ⟨hx, hd⟩ := List.forall_mem_cons.1 hd
      obtain ⟨u, hu, h⟩ := h.putNamed hx x.2
      obtain ⟨t, ht, h⟩ := foldlM_putNamed h hd
      rw [List.append_assoc] at h
      exact ⟨t, bind_eq_ok.2 ⟨u, hu, ht⟩, h⟩

theorem foldlM_putNamed_sealed : ∀ {d : Toml.Document V} {s : Settings V}
    {entries : Toml.Document V}, Holds s entries → (∃ x ∈ d, x.1 ∈ sealedNames) →
      (∀ v, (contentsKey, v) ∈ d → Library.entries? v = none) →
        ∃ e, d.foldlM (fun s (name, v) => s.putNamed name v) s = .error e ∧ e.IsForeign
  | [], _, _, _, hd, _ => by
      obtain ⟨x, hx, -⟩ := hd
      cases hx
  | (name, v) :: d, s, entries, h, hd, hcontents => by
      rw [List.foldlM_cons]
      change ∃ e, (s.putNamed name v >>= d.foldlM _) = .error e ∧ _
      by_cases hname : name ∈ sealedNames
      · obtain ⟨e, he, hforeign⟩ := putNamed_sealed (s := s) (v := v) hname fun hkey =>
          hcontents v (hkey ▸ List.mem_cons_self)
        rw [he]
        exact ⟨e, rfl, hforeign⟩
      · obtain ⟨u, hu, h⟩ := h.putNamed hname v
        have hrest : ∃ x ∈ d, x.1 ∈ sealedNames := by
          obtain ⟨x, hx, hsealed⟩ := hd
          rcases List.mem_cons.1 hx with rfl | hx
          · exact absurd hsealed hname
          · exact ⟨x, hx, hsealed⟩
        rw [hu]
        exact foldlM_putNamed_sealed h hrest fun w hmem => hcontents w (List.mem_cons_of_mem _ hmem)

end Holds

omit [Library V] in
/-- No document has a sealed name, and none that another one follows gives a value in the place of
merging. -/
structure IsOrderly (ds : List (Toml.Document V)) : Prop where
  sealed : ∀ d ∈ ds, ∀ x ∈ d, x.1 ∉ sealedNames
  merging : ∀ d ∈ ds.dropLast, ∀ x ∈ d, x.1 ≠ Action.merge.name

omit [Library V] in
theorem isOrderly_nil : IsOrderly ([] : List (Toml.Document V)) where
  sealed _ h := by cases h
  merging _ h := by cases h

omit [Library V] in
theorem isOrderly_concat : IsOrderly (ds ++ [d]) ↔
    IsOrderly ds ∧ latest? Action.merge.name ds.flatten = none ∧ ∀ x ∈ d, x.1 ∉ sealedNames := by
  rw [latest?_eq_none]
  constructor
  · intro h
    have hmerging := h.merging
    rw [List.dropLast_concat] at hmerging
    refine ⟨⟨fun d hd => h.sealed d (List.mem_append_left _ hd), fun d hd =>
      hmerging d (List.dropLast_subset _ hd)⟩, ?_, h.sealed d List.mem_concat_self⟩
    intro x hx
    obtain ⟨d, hd, hx⟩ := List.mem_flatten.1 hx
    exact hmerging d hd x hx
  · rintro ⟨hds, hmerging, hd⟩
    refine ⟨fun d' hd' => ?_, fun d' hd' x hx => ?_⟩
    · rcases List.mem_append.1 hd' with hd' | hd'
      · exact hds.sealed d' hd'
      · exact List.mem_singleton.1 hd' ▸ hd
    · rw [List.dropLast_concat] at hd'
      exact hmerging x (List.mem_flatten.2 ⟨d', hd', hx⟩)

omit [Library V] in
theorem isOrderly_of_declared (h : ∀ d ∈ ds, ∀ x ∈ d, isDeclared x.1 = true) : IsOrderly ds where
  sealed d hd x hx := not_mem_sealedNames_of_isDeclared (h d hd x hx)
  merging d hd x hx := actionName_ne_of_isDeclared (h d (List.dropLast_subset _ hd) x hx) .merge

omit [Library V] in
/-- Such documents leave the places of actions free. -/
theorem latest?_action_of_declared (h : ∀ d ∈ ds, ∀ x ∈ d, isDeclared x.1 = true)
    (action : Action) : latest? action.name ds.flatten = none := by
  refine latest?_eq_none.2 fun x hx => ?_
  obtain ⟨d, hd, hx⟩ := List.mem_flatten.1 hx
  exact actionName_ne_of_isDeclared (h d hd x hx) action

theorem foldlM_merge_concat (ds : List (Toml.Document V)) (d : Toml.Document V) (s : Settings V) :
    (ds ++ [d]).foldlM merge s = ds.foldlM merge s >>= fun t => t.merge d := by
  rw [List.foldlM_append]
  refine bind_congr fun t => ?_
  rw [List.foldlM_cons]
  exact bind_pure _

theorem foldlM_merge (h : IsOrderly ds) :
    ∃ t, ds.foldlM merge standard = .ok t ∧ Holds t ds.flatten := by
  induction ds using List.reverseRecOn with
  | nil => exact ⟨standard, rfl, .standard⟩
  | append_singleton ds d ih =>
      obtain ⟨hds, hmerging, hd⟩ := isOrderly_concat.1 h
      obtain ⟨u, hu, hholds⟩ := ih hds
      obtain ⟨t, ht, h⟩ := hholds.foldlM_putNamed hd
      rw [List.flatten_concat]
      refine ⟨t, ?_, h⟩
      rw [foldlM_merge_concat, hu]
      change (u.need .merge >>= fun _ => _) = _
      rw [hholds.need, hmerging]
      exact ht

/-- Other documents are refused, for a reason that settings by themselves never give. -/
theorem foldlM_merge_foreign
    (hcontents : ∀ d ∈ ds, ∀ v, (contentsKey, v) ∈ d → Library.entries? v = none)
    (h : ¬ IsOrderly ds) : ∃ e, ds.foldlM merge standard = .error e ∧ e.IsForeign := by
  induction ds using List.reverseRecOn with
  | nil => exact absurd isOrderly_nil h
  | append_singleton ds d ih =>
      rw [foldlM_merge_concat]
      by_cases hds : IsOrderly ds
      · obtain ⟨u, hu, hholds⟩ := foldlM_merge hds
        rw [hu]
        change ∃ e, (u.need .merge >>= fun _ => _) = .error e ∧ _
        rw [hholds.need]
        rcases hmerging : latest? Action.merge.name ds.flatten with _ | v
        · have hd : ∃ x ∈ d, x.1 ∈ sealedNames := by
            by_contra hno
            refine h (isOrderly_concat.2 ⟨hds, hmerging, fun x hx hsealed => hno ⟨x, hx, hsealed⟩⟩)
          exact hholds.foldlM_putNamed_sealed hd (hcontents d List.mem_concat_self)
        · exact ⟨.occupied (Library.kindName v), rfl, trivial⟩
      · obtain ⟨e, he, hforeign⟩ := ih (fun d hd => hcontents d (List.mem_append_left _ hd)) hds
        rw [he]
        exact ⟨e, rfl, hforeign⟩

end PostSearch.Settings
