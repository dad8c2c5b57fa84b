import PostSearch.Proofs.Sql.Operands

/-! # Binding keeps the values

Binding replaces operands by placeholders while the bound values pile up. `Faithful config m Q` says
what a binding program may do to the values: it adds some at the end, and whatever is added
afterwards, its result satisfies `Q` of the values there are then. The rules `Faithful.pure` and
`Faithful.bind` take such a program apart.

Main statements: the placeholders of a bound restriction stand, at any later time, for the operands
of the restriction (`faithful_restriction`), and likewise for text queries (`faithful_textQuery`),
whose configuration is bound once and shared. -/

namespace PostSearch.Sql

namespace Params

/-! ### Values of placeholders -/

/-- The value that a placeholder stands for. -/
def value? (ps : Params) (p : Placeholder) : Option Datum :=
  if p.stem = ps.stem then ps.values[p.index]? else none

/-- The values of `ps` are still there in `qs`, which may hold more. -/
structure Extends (qs ps : Params) : Prop where
  stem : qs.stem = ps.stem
  values : ps.values <+: qs.values

/-- If the text search configuration is bound, it is bound to `config`. -/
def ConfigIs (config : Datum) (ps : Params) : Prop :=
  ∀ p, ps.config = some p → ps.value? p = some config

theorem Extends.refl (ps : Params) : ps.Extends ps :=
  ⟨rfl, List.prefix_rfl⟩

theorem Extends.trans {ps qs rs : Params} (h₁ : rs.Extends qs) (h₂ : qs.Extends ps) :
    rs.Extends ps :=
  ⟨h₁.stem.trans h₂.stem, h₂.values.trans h₁.values⟩

/-- A value is not overwritten. -/
theorem Extends.value?_eq {ps qs : Params} (h : qs.Extends ps) {p : Placeholder} {v : Datum}
    (hp : ps.value? p = some v) : qs.value? p = some v := by
  unfold value? at hp ⊢
  split at hp
  · rename_i hs
    rw [if_pos (hs.trans h.stem.symm)]
    obtain ⟨more, hm⟩ := h.values
    obtain ⟨hlt, hv⟩ := List.getElem?_eq_some_iff.1 hp
    rw [← hm, List.getElem?_append_left hlt, hp]
  · cases hp

theorem value?_isSome_iff {ps : Params} {p : Placeholder} :
    (ps.value? p).isSome ↔ p.stem = ps.stem ∧ p.index < ps.values.length := by
  unfold value?
  split <;> simp_all

theorem configIs_empty (config : Datum) (stem : String) : ConfigIs config (empty stem) := by
  intro p h
  cases h

theorem ConfigIs.mono {config : Datum} {ps qs : Params} (hc : ConfigIs config ps)
    (h : qs.Extends ps) (e : qs.config = ps.config) : ConfigIs config qs :=
  fun p hp => h.value?_eq (hc p (e ▸ hp))

theorem entries_eq (ps : Params) : ps.entries = ps.values.zipIdx.map fun p =>
    (ps.stem ++ "_" ++ toString p.2, p.1) := rfl

/-- The values are numbered from zero. -/
theorem names_eq (ps : Params) : ps.entries.map Prod.fst =
    (List.range ps.values.length).map fun k => ps.stem ++ "_" ++ toString k := by
  have h := List.zipIdx_map_snd 0 ps.values
  rw [← List.range_eq_range'] at h
  rw [← h, entries_eq, List.map_map, List.map_map]
  rfl

end Params

open Params

/-! ### Faithful programs -/

variable {α β : Type} {config : Datum}

/-- Run from values whose configuration is `config`, the program only adds values, and its result
satisfies `Q` of the last values there will be. -/
def Faithful (config : Datum) (m : StateM Params α) (Q : Params → α → Prop) : Prop :=
  ∀ ps, ConfigIs config ps → (m ps).2.Extends ps ∧ ConfigIs config (m ps).2 ∧
    ∀ last : Params, last.Extends (m ps).2 → Q last (m ps).1

theorem Faithful.pure {Q : Params → α → Prop} {a : α} (h : ∀ last, Q last a) :
    Faithful config (Pure.pure a) Q :=
  fun ps hc => ⟨Extends.refl ps, hc, fun last _ => h last⟩

/-- The second program may rely on what the first one has established. -/
theorem Faithful.bind {m : StateM Params α} {k : α → StateM Params β} {Q : Params → α → Prop}
    {R : Params → β → Prop} (hm : Faithful config m Q)
    (hk : ∀ a, Faithful config (k a) fun last b => Q last a → R last b) :
    Faithful config (m >>= k) R := by
  intro ps hc
  obtain ⟨e₁, hc₁, hq⟩ := hm ps hc
  obtain ⟨e₂, hc₂, hr⟩ := hk (m ps).1 (m ps).2 hc₁
  exact ⟨e₂.trans e₁, hc₂, fun last hl => hr last hl (hq last (hl.trans e₂))⟩

/-- The value is what the program returned when it was run, and nothing was overwritten since. -/
def RanAs (m : StateM Params α) (last : Params) (a : α) : Prop :=
  ∃ before, (m.run before).1 = a ∧ last.Extends (m.run before).2

theorem Faithful.ranAs {m : StateM Params α} {Q : Params → α → Prop} (h : Faithful config m Q) :
    Faithful config m fun last a => Q last a ∧ RanAs m last a := by
  intro ps hc
  obtain ⟨e, hc', hq⟩ := h ps hc
  exact ⟨e, hc', fun last hl => ⟨hq last hl, ps, rfl, hl⟩⟩

/-! ### The basic programs -/

theorem faithful_bind (v : Datum) :
    Faithful config (Params.bind v) fun last p => last.value? p = some v := by
  intro ps hc
  have e : (Params.bind v ps).2.Extends ps := ⟨rfl, List.prefix_append _ _⟩
  have hv : (Params.bind v ps).2.value? (Params.bind v ps).1 = some v := by
    simp [Params.bind, value?]
  exact ⟨e, hc.mono e rfl, fun last hl => hl.value?_eq hv⟩

theorem faithful_bindConfig :
    Faithful config (Params.bindConfig config) fun last p => last.value? p = some config := by
  intro ps hc
  unfold Params.bindConfig
  cases h : ps.config with
  | some p => exact ⟨Extends.refl ps, hc, fun last hl => hl.value?_eq (hc p h)⟩
  | none =>
      obtain ⟨e, -, hv⟩ := faithful_bind config ps hc
      refine ⟨⟨e.stem, e.values⟩, ?_, fun last hl => hv last ⟨hl.stem, hl.values⟩⟩
      intro p hp
      obtain rfl : (Params.bind config ps).1 = p := Option.some.inj hp
      exact hv _ ⟨rfl, List.prefix_rfl⟩

theorem faithful_bindOption (v : Option Datum) :
    Faithful config (Params.bindOption v) fun last p => p.map last.value? = v.map some := by
  cases v with
  | none => exact Faithful.pure fun _ => rfl
  | some v =>
      refine Faithful.bind (faithful_bind v) fun p => Faithful.pure fun last h => ?_
      simp only [Option.map_some, h]

/-! ### Text queries -/

/-- The terms of a text query all have the configuration `config`. -/
def TextQuery.HasConfig (config : Datum) : TextQuery Datum → Prop
  | .term c _ _ _ => c = config
  | .joined _ parts => ∀ q ∈ parts, q.HasConfig config

namespace TextQuery

mutual

theorem faithful_textQuery : ∀ q : TextQuery Datum, q.HasConfig config →
    Faithful config q.bind fun last r => r.map last.value? = q.map some
  | .term c excluded mode value, h => by
      obtain rfl : c = config := by simpa only [HasConfig] using h
      refine Faithful.bind faithful_bindConfig fun p => ?_
      refine Faithful.bind (faithful_bind value) fun v => Faithful.pure fun last hv hp => ?_
      simp only [map, hv, hp]
  | .joined joint parts, h => by
      refine Faithful.bind (faithful_textQueries parts ?_) fun rs => Faithful.pure fun last hr => ?_
      · simpa only [HasConfig] using h
      · simp only [map, hr]

theorem faithful_textQueries : ∀ qs : List (TextQuery Datum), (∀ q ∈ qs, q.HasConfig config) →
    Faithful config (bindAll qs) fun last rs => mapAll last.value? rs = mapAll some qs
  | [], _ => Faithful.pure fun _ => rfl
  | q :: qs, h => by
      refine Faithful.bind (faithful_textQuery q (h q List.mem_cons_self)) fun r => ?_
      refine Faithful.bind (faithful_textQueries qs fun q' hq => h q' (List.mem_cons_of_mem _ hq))
        fun rs => Faithful.pure fun last hrs hr => ?_
      simp only [mapAll, hr, hrs]

end

theorem faithful_option (q : Option (TextQuery Datum)) (h : ∀ r ∈ q, r.HasConfig config) :
    Faithful config (bindOption q) fun last r => r.map (map last.value?) = q.map (map some) := by
  cases q with
  | none => exact Faithful.pure fun _ => rfl
  | some q =>
      refine Faithful.bind (faithful_textQuery q (h q rfl)) fun r => Faithful.pure fun last hr => ?_
      simp only [Option.map_some, hr]

end TextQuery

/-! ### Restrictions -/

/-- All text queries in a restriction have the configuration `config`. -/
def Restriction.HasConfig (config : Datum) (f : Restriction Datum) : Prop :=
  ∀ column q, .matchesText column q ∈ f.atoms → q.HasConfig config

/-- A restriction that looks for no text needs no configuration. -/
theorem Restriction.Speaks.hasConfig {words : List String} {f : Restriction Datum}
    (h : f.Speaks words) : f.HasConfig config := by
  intro column q hq
  cases (h _ hq).1

theorem faithful_atom (a : Atom Datum)
    (h : ∀ column q, a = .matchesText column q → q.HasConfig config) :
    Faithful config a.bind fun last b => b.map last.value? = a.map some := by
  cases a with
  | verbatim | flag | isNull | notNull => exact Faithful.pure fun _ => rfl
  | compare | oneOf | noneOf | overlaps | disjoint | reaches | notBanned =>
      refine Faithful.bind (faithful_bind _) fun p => Faithful.pure fun last hp => ?_
      simp only [Atom.map, hp]
  | between column lower upper =>
      refine Faithful.bind (faithful_bind lower) fun p => ?_
      refine Faithful.bind (faithful_bind upper) fun q => Faithful.pure fun last hq hp => ?_
      simp only [Atom.map, hp, hq]
  | matchesText column q =>
      refine Faithful.bind (q.faithful_textQuery (h column q rfl)) fun r =>
        Faithful.pure fun last hr => ?_
      simp only [Atom.map, hr]

namespace Restriction

mutual

theorem faithful_restriction : ∀ f : Restriction Datum, f.HasConfig config →
    Faithful config f.bind fun last g => g.map last.value? = f.map some
  | .const _, _ => Faithful.pure fun _ => rfl
  | .atom a, h => by
      refine Faithful.bind (faithful_atom a fun column q e => ?_) fun b =>
        Faithful.pure fun last hb => ?_
      · exact h column q (by simp [atoms, e])
      · simp only [map, hb]
  | .not f, h => by
      refine Faithful.bind (faithful_restriction f h) fun g => Faithful.pure fun last hg => ?_
      simp only [map, hg]
  | .all fs, h => by
      refine Faithful.bind (faithful_restrictions fs h) fun gs => Faithful.pure fun last hg => ?_
      simp only [map, hg]
  | .any fs, h => by
      refine Faithful.bind (faithful_restrictions fs h) fun gs => Faithful.pure fun last hg => ?_
      simp only [map, hg]
  | .someRow f, h => by
      refine Faithful.bind (faithful_restriction f h) fun g => Faithful.pure fun last hg => ?_
      simp only [map, hg]

theorem faithful_restrictions : ∀ fs : List (Restriction Datum),
    (∀ column q, .matchesText column q ∈ atomsAll fs → q.HasConfig config) →
    Faithful config (bindAll fs) fun last gs => mapAll last.value? gs = mapAll some fs
  | [], _ => Faithful.pure fun _ => rfl
  | f :: fs, h => by
      refine Faithful.bind (faithful_restriction f fun column q hq => ?_) fun g => ?_
      · exact h column q (List.mem_append_left _ hq)
      · refine Faithful.bind (faithful_restrictions fs fun column q hq => ?_) fun gs =>
          Faithful.pure fun last hgs hg => ?_
        · exact h column q (List.mem_append_right _ hq)
        · simp only [mapAll, hg, hgs]

end

end Restriction

end PostSearch.Sql
