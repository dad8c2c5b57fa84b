import PostSearch.Proofs.Sql.Binding

/-! # Binding does not look at values

Placeholders are numbered in the order in which they are given out, whatever they are given out for.
So two restrictions of one shape, which differ in their operands only, become the same restriction
when they are bound. `Aligned m n` says this of two binding programs; `Aligned.pure` and
`Aligned.bind` take such programs apart.

Main statements: `aligned_textQuery` and `aligned_restriction`. -/

namespace PostSearch.Sql

variable {α β ν : Type}

/-! ### Shapes -/

/-- What is left of a text query without its operands. -/
def TextQuery.shape (q : TextQuery ν) : TextQuery Unit :=
  q.map fun _ => ()

/-- What is left of a restriction without its operands. -/
def Restriction.shape (f : Restriction ν) : Restriction Unit :=
  f.map fun _ => ()

theorem TextQuery.shape_joined (joint : TextJoint) (qs : List (TextQuery ν)) :
    (TextQuery.joined joint qs).shape = .joined joint (qs.map shape) := by
  simp only [shape, map, mapAll_eq]
  rfl

namespace Restriction

theorem shape_not (f : Restriction ν) : (Restriction.not f).shape = .not f.shape :=
  rfl

theorem shape_someRow (f : Restriction ν) : (Restriction.someRow f).shape = .someRow f.shape :=
  rfl

theorem shape_all (fs : List (Restriction ν)) :
    (Restriction.all fs).shape = .all (fs.map shape) := by
  simp only [shape, map, mapAll_eq]
  rfl

theorem shape_any (fs : List (Restriction ν)) :
    (Restriction.any fs).shape = .any (fs.map shape) := by
  simp only [shape, map, mapAll_eq]
  rfl

end Restriction

/-! ### Aligned programs -/

/-- The next placeholders are the same. -/
structure Params.Alike (ps qs : Params) : Prop where
  stem : ps.stem = qs.stem
  count : ps.values.length = qs.values.length
  config : ps.config = qs.config

theorem Params.Alike.names_eq {ps qs : Params} (h : ps.Alike qs) :
    ps.entries.map Prod.fst = qs.entries.map Prod.fst := by
  rw [Params.names_eq, Params.names_eq, h.stem, h.count]

/-- Where the next placeholders are the same, so are the results, and the next placeholders after
that. -/
def Aligned (m n : StateM Params α) : Prop :=
  ∀ ps qs, Params.Alike ps qs → (m ps).1 = (n qs).1 ∧ Params.Alike (m ps).2 (n qs).2

theorem Aligned.pure (a : α) : Aligned (Pure.pure a) (Pure.pure a) :=
  fun _ _ h => ⟨rfl, h⟩

theorem Aligned.bind {m n : StateM Params α} {k l : α → StateM Params β} (h : Aligned m n)
    (hk : ∀ a, Aligned (k a) (l a)) : Aligned (m >>= k) (n >>= l) := by
  intro ps qs hps
  obtain ⟨e, h'⟩ := h ps qs hps
  have hl := hk (m ps).1 (m ps).2 (n qs).2 h'
  show (k (m ps).1 (m ps).2).1 = (l (n qs).1 (n qs).2).1 ∧
    Params.Alike (k (m ps).1 (m ps).2).2 (l (n qs).1 (n qs).2).2
  rwa [← e]

theorem aligned_bind (v w : Datum) : Aligned (Params.bind v) (Params.bind w) := by
  intro ps qs h
  refine ⟨?_, h.stem, ?_, h.config⟩
  · simp only [Params.bind, h.stem, h.count]
  · simp only [Params.bind, List.length_append, h.count, List.length_singleton]

theorem aligned_bindConfig (c d : Datum) : Aligned (Params.bindConfig c) (Params.bindConfig d) := by
  intro ps qs h
  unfold Params.bindConfig
  rw [← h.config]
  cases ps.config with
  | some p => exact ⟨rfl, h⟩
  | none =>
      obtain ⟨e, h'⟩ := aligned_bind c d ps qs h
      exact ⟨e, h'.stem, h'.count, congrArg some e⟩

theorem aligned_bindOption (v : Option Datum) :
    Aligned (Params.bindOption v) (Params.bindOption v) := by
  cases v with
  | none => exact Aligned.pure none
  | some v => exact (aligned_bind v v).bind fun p => Aligned.pure (some p)

/-! ### Text queries -/

namespace TextQuery

mutual

theorem aligned_textQuery : ∀ q r : TextQuery Datum, q.shape = r.shape → Aligned q.bind r.bind
  | .term c excluded mode v, .term d excluded' mode' w, h => by
      obtain ⟨-, rfl, rfl, -⟩ := TextQuery.term.inj h
      refine (aligned_bindConfig c d).bind fun p => ?_
      exact (aligned_bind v w).bind fun _ => Aligned.pure _
  | .joined joint qs, .joined joint' rs, h => by
      simp only [shape, map, joined.injEq] at h
      obtain ⟨rfl, h⟩ := h
      exact (aligned_textQueries qs rs h).bind fun _ => Aligned.pure _
  | .term _ _ _ _, .joined _ _, h => nomatch h
  | .joined _ _, .term _ _ _ _, h => nomatch h

theorem aligned_textQueries : ∀ qs rs : List (TextQuery Datum),
    mapAll (fun _ => ()) qs = mapAll (fun _ => ()) rs → Aligned (bindAll qs) (bindAll rs)
  | [], [], _ => Aligned.pure []
  | q :: qs, r :: rs, h => by
      simp only [mapAll, List.cons.injEq] at h
      refine (aligned_textQuery q r h.1).bind fun _ => ?_
      exact (aligned_textQueries qs rs h.2).bind fun _ => Aligned.pure _
  | [], _ :: _, h => nomatch h
  | _ :: _, [], h => nomatch h

end

theorem aligned_option {q r : Option (TextQuery Datum)} (h : q.map shape = r.map shape) :
    Aligned (bindOption q) (bindOption r) := by
  cases q <;> cases r <;> try cases h
  case none.none => exact Aligned.pure none
  case some.some q r =>
    exact (aligned_textQuery q r (Option.some.inj h)).bind fun _ => Aligned.pure _

end TextQuery

/-! ### Restrictions -/

theorem aligned_atom {a b : Atom Datum} (h : a.map (fun _ => ()) = b.map fun _ => ()) :
    Aligned a.bind b.bind := by
  cases a <;> cases b <;> try cases h
  case verbatim | flag | isNull | notNull => exact Aligned.pure _
  case compare | oneOf | noneOf | overlaps | disjoint | reaches | notBanned =>
    exact (aligned_bind _ _).bind fun _ => Aligned.pure _
  case between =>
    refine (aligned_bind _ _).bind fun _ => ?_
    exact (aligned_bind _ _).bind fun _ => Aligned.pure _
  case matchesText column q column' r =>
    obtain ⟨rfl, hq⟩ := Atom.matchesText.inj h
    exact (TextQuery.aligned_textQuery q r hq).bind fun _ => Aligned.pure _

namespace Restriction

mutual

theorem aligned_restriction : ∀ f g : Restriction Datum, f.shape = g.shape →
    Aligned f.bind g.bind
  | .const b, g, h => by
      cases g <;> cases h
      exact Aligned.pure _
  | .atom a, g, h => by
      cases g <;> try cases h
      case atom b => exact (aligned_atom (Restriction.atom.inj h)).bind fun _ => Aligned.pure _
  | .not f, g, h => by
      cases g <;> try cases h
      case not g =>
        exact (aligned_restriction f g (Restriction.not.inj h)).bind fun _ => Aligned.pure _
  | .all fs, g, h => by
      cases g <;> try cases h
      case all gs =>
        exact (aligned_restrictions fs gs (Restriction.all.inj h)).bind fun _ => Aligned.pure _
  | .any fs, g, h => by
      cases g <;> try cases h
      case any gs =>
        exact (aligned_restrictions fs gs (Restriction.any.inj h)).bind fun _ => Aligned.pure _
  | .someRow f, g, h => by
      cases g <;> try cases h
      case someRow g =>
        exact (aligned_restriction f g (Restriction.someRow.inj h)).bind fun _ => Aligned.pure _

theorem aligned_restrictions : ∀ fs gs : List (Restriction Datum),
    mapAll (fun _ => ()) fs = mapAll (fun _ => ()) gs → Aligned (bindAll fs) (bindAll gs)
  | [], [], _ => Aligned.pure []
  | f :: fs, g :: gs, h => by
      simp only [mapAll, List.cons.injEq] at h
      refine (aligned_restriction f g h.1).bind fun _ => ?_
      exact (aligned_restrictions fs gs h.2).bind fun _ => Aligned.pure _
  | [], _ :: _, h => nomatch h
  | _ :: _, [], h => nomatch h

end

end Restriction

end PostSearch.Sql
