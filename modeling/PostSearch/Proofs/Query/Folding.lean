import PostSearch.Query.Fold

/-! # Folding, piece by piece

Both folds read tokens from the left onto the tokens already folded. `Folds` says what a piece
becomes, whatever has been folded before and whatever follows; pieces next to each other become what
each of them becomes (`Folds.append`), and so do pieces with separators (`Folds.intercalate`).

What holds of all tokens is kept by folding if it is kept where groups are merged and sequences are
joined (`forall_joinPipes`, `forall_joinPluses`). -/

namespace PostSearch.Query

variable {α : Type} {ts us ts' us' : List Token} {t : Token}

/-! ### Pieces -/

/-- Reading `ts` puts `us` onto what is folded already. -/
def Folds (fold : List Token → List Token → List Token) (ts us : List Token) : Prop :=
  ∀ done rest, fold done (ts ++ rest) = fold (us.reverse ++ done) rest

variable {fold : List Token → List Token → List Token}

theorem Folds.nil : Folds fold [] [] :=
  fun _ _ => rfl

theorem Folds.append (h : Folds fold ts us) (h' : Folds fold ts' us') :
    Folds fold (ts ++ ts') (us ++ us') := by
  intro done rest
  rw [List.append_assoc, h, h', List.reverse_append, List.append_assoc]

theorem Folds.flatMap {f g : α → List Token} : ∀ {xs : List α},
    (∀ x ∈ xs, Folds fold (f x) (g x)) → Folds fold (xs.flatMap f) (xs.flatMap g)
  | [], _ => Folds.nil
  | x :: xs, h => by
      obtain ⟨hx, hxs⟩ := List.forall_mem_cons.1 h
      rw [List.flatMap_cons, List.flatMap_cons]
      exact hx.append (Folds.flatMap hxs)

theorem intercalate_map_cons {sep : List Token} {f : α → List Token} : ∀ {x : α} {xs : List α},
    sep.intercalate ((x :: xs).map f) = f x ++ xs.flatMap fun y => sep ++ f y
  | x, [] => by simp
  | x, y :: xs => by
      have htail : sep.intercalate ((y :: xs).map f) = f y ++ xs.flatMap fun z => sep ++ f z :=
        intercalate_map_cons
      rw [List.map_cons] at htail
      rw [List.map_cons, List.map_cons, List.intercalate_cons_cons, htail, List.flatMap_cons]
      simp

theorem forall_mem_intercalate {P : Token → Prop} {sep : List Token} {f : α → List Token}
    {xs : List α} (hsep : ∀ t ∈ sep, P t) (h : ∀ x ∈ xs, ∀ t ∈ f x, P t) :
    ∀ t ∈ sep.intercalate (xs.map f), P t := by
  cases xs with
  | nil => exact fun t ht => absurd ht List.not_mem_nil
  | cons x xs =>
      obtain ⟨hx, hxs⟩ := List.forall_mem_cons.1 h
      rw [intercalate_map_cons]
      intro t ht
      rcases List.mem_append.1 ht with ht | ht
      · exact hx t ht
      · obtain ⟨y, hy, ht⟩ := List.mem_flatMap.1 ht
        exact (List.mem_append.1 ht).elim (hsep t) (hxs y hy t)

theorem Folds.intercalate {sep : List Token} {f g : α → List Token} {xs : List α}
    (hsep : Folds fold sep sep) (h : ∀ x ∈ xs, Folds fold (f x) (g x)) :
    Folds fold (sep.intercalate (xs.map f)) (sep.intercalate (xs.map g)) := by
  cases xs with
  | nil => exact Folds.nil
  | cons x xs =>
      obtain ⟨hx, hxs⟩ := List.forall_mem_cons.1 h
      rw [intercalate_map_cons, intercalate_map_cons]
      exact hx.append (Folds.flatMap fun y hy => hsep.append (hxs y hy))

/-! ### Pipes -/

theorem folds_joinPipes (h : t ≠ .pipe) : Folds joinPipesOnto [t] [t] := by
  intro done rest
  cases t <;> first | rfl | exact absurd rfl h

theorem folds_piped {f : α → Group} {x : α} {xs : List α} :
    Folds joinPipesOnto ([.pipe].intercalate ((x :: xs).map fun y => [.group (f y)]))
      [.group ((x :: xs).flatMap f)] := by
  -- the groups that follow the first go into the group folded last
  have hmerge : ∀ (ys : List α) (g : Group) (done rest : List Token),
      joinPipesOnto (.group g :: done)
        ((ys.flatMap fun y => [.pipe] ++ [.group (f y)]) ++ rest) =
      joinPipesOnto (.group (g ++ ys.flatMap f) :: done) rest := by
    intro ys
    induction ys with
    | nil => simp
    | cons y ys ih =>
        intro g done rest
        have hstep := ih (g ++ f y) done rest
        rw [List.append_assoc] at hstep
        rw [List.flatMap_cons, List.flatMap_cons, ← hstep]
        rfl
  intro done rest
  rw [intercalate_map_cons]
  exact hmerge xs (f x) done rest

theorem joinPipes_of_folds (h : Folds joinPipesOnto ts us) : joinPipes ts = us := by
  have hfold := h [] []
  rw [List.append_nil, List.append_nil] at hfold
  rw [joinPipes, hfold, joinPipesOnto, List.reverse_reverse]

/-! ### Pluses -/

theorem folds_joinPluses (hplus : t ≠ .plus) (hgroup : ∀ g, t ≠ .group g) :
    Folds joinPlusesOnto [t] [t] := by
  intro done rest
  cases t with
  | plus => exact absurd rfl hplus
  | group g => exact absurd rfl (hgroup g)
  | _ => rfl

theorem folds_plused {f : α → Group} {x : α} {xs : List α} :
    Folds joinPlusesOnto ([.plus].intercalate ((x :: xs).map fun y => [.group (f y)]))
      [.sequence ((x :: xs).map f)] := by
  -- the groups that follow the first go into the sequence folded last
  have hjoin : ∀ (ys : List α) (gs : List Group) (done rest : List Token),
      joinPlusesOnto (.sequence gs :: done)
        ((ys.flatMap fun y => [.plus] ++ [.group (f y)]) ++ rest) =
      joinPlusesOnto (.sequence (gs ++ ys.map f) :: done) rest := by
    intro ys
    induction ys with
    | nil => simp
    | cons y ys ih =>
        intro gs done rest
        have hstep := ih (gs ++ [f y]) done rest
        rw [List.append_assoc, List.singleton_append] at hstep
        rw [List.flatMap_cons, List.map_cons, ← hstep]
        rfl
  intro done rest
  rw [intercalate_map_cons]
  exact hjoin xs [f x] done rest

theorem joinPluses_of_folds (h : Folds joinPlusesOnto ts us) : joinPluses ts = us := by
  have hfold := h [] []
  rw [List.append_nil, List.append_nil] at hfold
  rw [joinPluses, hfold, joinPlusesOnto, List.reverse_reverse]

/-! ### What folding keeps -/

variable {P Q : Token → Prop}

theorem forall_joinPipesOnto {done ts : List Token} (hdone : ∀ t ∈ done, Q t)
    (hts : ∀ t ∈ ts, P t) (hkeep : ∀ t, P t → t ≠ .pipe → Q t)
    (hmerge : ∀ g h, Q (.group g) → P (.group h) → Q (.group (g ++ h))) :
    ∀ t ∈ joinPipesOnto done ts, Q t := by
  fun_induction joinPipesOnto done ts with
  | case1 done => exact fun t ht => hdone t (List.mem_reverse.1 ht)
  | case2 h rest g done ih =>
      obtain ⟨-, hh, hrest⟩ := by simpa using hts
      obtain ⟨hg, hdone⟩ := List.forall_mem_cons.1 hdone
      exact ih (List.forall_mem_cons.2 ⟨hmerge g h hg hh, hdone⟩) hrest
  | case3 done h rest _ ih =>
      obtain ⟨-, hh, hrest⟩ := by simpa using hts
      exact ih (List.forall_mem_cons.2 ⟨hkeep _ hh nofun, hdone⟩) hrest
  | case4 done rest _ ih => exact ih hdone (List.forall_mem_cons.1 hts).2
  | case5 done t rest hpipe hpipes ih =>
      obtain ⟨ht, hrest⟩ := List.forall_mem_cons.1 hts
      exact ih (List.forall_mem_cons.2 ⟨hkeep t ht hpipes, hdone⟩) hrest

/-- What holds of tokens holds of them after folding, if it does of merged groups. -/
theorem forall_joinPipes (hts : ∀ t ∈ ts, P t) (hkeep : ∀ t, P t → t ≠ .pipe → Q t)
    (hmerge : ∀ g h, Q (.group g) → P (.group h) → Q (.group (g ++ h))) :
    ∀ t ∈ joinPipes ts, Q t :=
  forall_joinPipesOnto (fun _ ht => absurd ht List.not_mem_nil) hts hkeep hmerge

theorem forall_joinPlusesOnto {done ts : List Token} (hdone : ∀ t ∈ done, Q t)
    (hts : ∀ t ∈ ts, P t) (hkeep : ∀ t, P t → t ≠ .plus → (∀ g, t ≠ .group g) → Q t)
    (hwrap : ∀ g, P (.group g) → Q (.sequence [g]))
    (hjoin : ∀ gs g, Q (.sequence gs) → P (.group g) → Q (.sequence (gs ++ [g]))) :
    ∀ t ∈ joinPlusesOnto done ts, Q t := by
  fun_induction joinPlusesOnto done ts with
  | case1 done => exact fun t ht => hdone t (List.mem_reverse.1 ht)
  | case2 g rest gs done ih =>
      obtain ⟨-, hg, hrest⟩ := by simpa using hts
      obtain ⟨hgs, hdone⟩ := List.forall_mem_cons.1 hdone
      exact ih (List.forall_mem_cons.2 ⟨hjoin gs g hgs hg, hdone⟩) hrest
  | case3 g rest done _ ih =>
      obtain ⟨-, hg, hrest⟩ := by simpa using hts
      exact ih (List.forall_mem_cons.2 ⟨hwrap g hg, hdone⟩) hrest
  | case4 done rest _ ih => exact ih hdone (List.forall_mem_cons.1 hts).2
  | case5 done g rest ih =>
      obtain ⟨hg, hrest⟩ := List.forall_mem_cons.1 hts
      exact ih (List.forall_mem_cons.2 ⟨hwrap g hg, hdone⟩) hrest
  | case6 done t rest hplus hpluses hgroup ih =>
      obtain ⟨ht, hrest⟩ := List.forall_mem_cons.1 hts
      exact ih (List.forall_mem_cons.2 ⟨hkeep t ht hpluses hgroup, hdone⟩) hrest

/-- What holds of tokens holds of them after folding, if it does of joined sequences. -/
theorem forall_joinPluses (hts : ∀ t ∈ ts, P t)
    (hkeep : ∀ t, P t → t ≠ .plus → (∀ g, t ≠ .group g) → Q t)
    (hwrap : ∀ g, P (.group g) → Q (.sequence [g]))
    (hjoin : ∀ gs g, Q (.sequence gs) → P (.group g) → Q (.sequence (gs ++ [g]))) :
    ∀ t ∈ joinPluses ts, Q t :=
  forall_joinPlusesOnto (fun _ ht => absurd ht List.not_mem_nil) hts hkeep hwrap hjoin

end PostSearch.Query
