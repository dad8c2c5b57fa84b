import PostSearch.Proofs.Query.Folding

/-! # Joining around a combinator

Both folds read from the left and look back at what is folded already. They are one fold, but for
the combinator that they join around and what groups are put into (`Joins`). Read from the right,
such a fold has one equation per token: its combinator leaves no trace of its own
(`Joins.drop_nil`), any other token is kept (`Joins.kept`), and a group is joined to the next one
(`Joins.group_joined`) or stands by itself (`Joins.group_apart`).

What joins a group to the next one, `link`, is read off the tokens in between. With it both folds
together have such equations too (`foldCombinators_group_pipes`, `foldCombinators_group_pluses`,
`foldCombinators_group_apart`). -/

namespace PostSearch.Query

/-! ### One fold -/

/-- The fold enters a group `g` as `wrap (one g)`, but adds it to the groups that were entered last
if `comb` stands before it. -/
structure Joins {β : Type} (fold : List Token → List Token → List Token) (comb : Token)
    (wrap : List β → Token) (one : Group → List β) : Prop where
  comb_ne : ∀ g, comb ≠ .group g
  nil : ∀ done, fold done [] = done.reverse
  enter : ∀ done g ts, fold done (.group g :: ts) = fold (wrap (one g) :: done) ts
  merge : ∀ done xs g ts,
    fold (wrap xs :: done) (comb :: .group g :: ts) = fold (wrap (xs ++ one g) :: done) ts
  start : ∀ g ts, fold [] (comb :: .group g :: ts) = fold [wrap (one g)] ts
  restart : ∀ {t}, (∀ xs, t ≠ wrap xs) → ∀ done g ts,
    fold (t :: done) (comb :: .group g :: ts) = fold (wrap (one g) :: t :: done) ts
  drop : ∀ {ts}, (∀ g rest, ts ≠ .group g :: rest) → ∀ done, fold done (comb :: ts) = fold done ts
  keep : ∀ {t}, t ≠ comb → (∀ g, t ≠ .group g) → ∀ done ts,
    fold done (t :: ts) = fold (t :: done) ts

theorem joins_pipes : Joins joinPipesOnto .pipe .group id where
  comb_ne _ := nofun
  nil _ := rfl
  enter _ _ _ := rfl
  merge _ _ _ _ := rfl
  start _ _ := rfl
  restart {t} ht _ _ _ := by
    cases t with
    | group g => exact absurd rfl (ht g)
    | _ => rfl
  drop {ts} hts _ := by
    cases ts with
    | nil => rfl
    | cons t ts =>
        cases t with
        | group g => exact absurd rfl (hts g ts)
        | _ => rfl
  keep hpipe _ := folds_joinPipes hpipe

theorem joins_pluses : Joins joinPlusesOnto .plus .sequence fun g => [g] where
  comb_ne _ := nofun
  nil _ := rfl
  enter _ _ _ := rfl
  merge _ _ _ _ := rfl
  start _ _ := rfl
  restart {t} ht _ _ _ := by
    cases t with
    | sequence gs => exact absurd rfl (ht gs)
    | _ => rfl
  drop {ts} hts _ := by
    cases ts with
    | nil => rfl
    | cons t ts =>
        cases t with
        | group g => exact absurd rfl (hts g ts)
        | _ => rfl
  keep hplus hgroup := folds_joinPluses hplus hgroup

/-- Nothing but `comb`, at least once, stands before the first group of the tokens. -/
inductive Joined (comb : Token) : List Token → Prop where
  | next (g : Group) (ts : List Token) : Joined comb (comb :: .group g :: ts)
  | more {ts : List Token} : Joined comb ts → Joined comb (comb :: ts)

theorem Joined.ne_group {comb : Token} {ts : List Token} (h : Joined comb ts)
    (hcomb : ∀ g, comb ≠ .group g) (g : Group) (rest : List Token) : ts ≠ .group g :: rest := by
  intro hts
  cases h with
  | next | more => exact hcomb g (List.cons.inj hts).1

theorem Joined.mem {comb : Token} {ts : List Token} (h : Joined comb ts) : comb ∈ ts := by
  cases h with
  | next | more => exact List.mem_cons_self

namespace Joins

variable {β : Type} {fold : List Token → List Token → List Token} {comb t : Token}
  {wrap : List β → Token} {one : Group → List β} {ts : List Token}

/-- Tokens are read one by one, but a combinator with the group after it at once. -/
theorem induction (hf : Joins fold comb wrap one) {motive : List Token → Prop}
    (nil : motive []) (group : ∀ g ts, motive ts → motive (.group g :: ts))
    (merge : ∀ g ts, motive ts → motive (comb :: .group g :: ts))
    (drop : ∀ ts, (∀ g rest, ts ≠ .group g :: rest) → motive ts → motive (comb :: ts))
    (keep : ∀ t ts, t ≠ comb → (∀ g, t ≠ .group g) → motive ts → motive (t :: ts)) :
    ∀ ts, motive ts
  | [] => nil
  | t :: ts => by
      by_cases ht : t = comb
      · rw [ht]
        by_cases hts : ∃ g rest, ts = .group g :: rest
        · obtain ⟨g, rest, rfl⟩ := hts
          exact merge g rest (hf.induction nil group merge drop keep rest)
        · exact drop ts (fun g rest h => hts ⟨g, rest, h⟩)
            (hf.induction nil group merge drop keep ts)
      · have ih := hf.induction nil group merge drop keep ts
        by_cases hgroup : ∃ g, t = .group g
        · obtain ⟨g, rfl⟩ := hgroup
          exact group g ts ih
        · exact keep t ts ht (fun g h => hgroup ⟨g, h⟩) ih

/-- Only the token that is folded last matters for what follows. -/
theorem cons (hf : Joins fold comb wrap one) (t : Token) (done ts : List Token) :
    fold (t :: done) ts = done.reverse ++ fold [t] ts := by
  -- a token folded onto `t` moves it to those that do not matter
  have hpush : ∀ {ts}, (∀ t done, fold (t :: done) ts = done.reverse ++ fold [t] ts) →
      ∀ u t done, fold (u :: t :: done) ts = done.reverse ++ fold [u, t] ts := by
    intro ts ih u t done
    rw [ih u (t :: done), ih u [t], List.reverse_cons, List.append_assoc]
    rfl
  induction ts using hf.induction generalizing t done with
  | nil => rw [hf.nil, hf.nil, List.reverse_cons]; rfl
  | group g ts ih =>
      rw [hf.enter, hf.enter]
      exact hpush ih _ t done
  | merge g ts ih =>
      by_cases ht : ∃ xs, t = wrap xs
      · obtain ⟨xs, rfl⟩ := ht
        rw [hf.merge, hf.merge]
        exact ih _ done
      · have ht : ∀ xs, t ≠ wrap xs := fun xs h => ht ⟨xs, h⟩
        rw [hf.restart ht, hf.restart ht]
        exact hpush ih _ t done
  | drop ts hts ih =>
      rw [hf.drop hts, hf.drop hts]
      exact ih t done
  | keep u ts hu hgroup ih =>
      rw [hf.keep hu hgroup, hf.keep hu hgroup]
      exact hpush ih u t done

theorem drop_nil (hf : Joins fold comb wrap one) (ts : List Token) :
    fold [] (comb :: ts) = fold [] ts := by
  by_cases hts : ∃ g rest, ts = .group g :: rest
  · obtain ⟨g, rest, rfl⟩ := hts
    rw [hf.start, hf.enter]
  · exact hf.drop (fun g rest h => hts ⟨g, rest, h⟩) []

/-- Nothing is added to a token that is neither a group nor made of groups. -/
theorem kept (hf : Joins fold comb wrap one) (hcomb : t ≠ comb) (hgroup : ∀ g, t ≠ .group g)
    (hwrap : ∀ xs, t ≠ wrap xs) (ts : List Token) : fold [] (t :: ts) = t :: fold [] ts := by
  rw [hf.keep hcomb hgroup]
  induction ts using hf.induction with
  | nil => rw [hf.nil, hf.nil]; rfl
  | group g ts => rw [hf.enter, hf.enter, hf.cons]; rfl
  | merge g ts => rw [hf.restart hwrap, hf.start, hf.cons]; rfl
  | drop ts hts ih => rw [hf.drop hts, hf.drop hts, ih]
  | keep u ts hu hgroup => rw [hf.keep hu hgroup, hf.keep hu hgroup, hf.cons]; rfl

/-- What is added to groups goes after them, whatever they are. -/
theorem exists_added (hf : Joins fold comb wrap one) (ts : List Token) :
    ∃ ys us, ∀ xs, fold [wrap xs] ts = wrap (xs ++ ys) :: us := by
  -- after a token of its own nothing is added
  have hother : ∀ u ts xs, fold [u, wrap xs] ts = wrap (xs ++ []) :: fold [u] ts := by
    intro u ts xs
    rw [hf.cons, List.append_nil]
    rfl
  induction ts using hf.induction with
  | nil => exact ⟨[], [], fun xs => by rw [hf.nil, List.append_nil]; rfl⟩
  | group g ts => exact ⟨[], _, fun xs => (hf.enter _ g ts).trans (hother _ ts xs)⟩
  | merge g ts ih =>
      obtain ⟨ys, us, hts⟩ := ih
      refine ⟨one g ++ ys, us, fun xs => ?_⟩
      rw [hf.merge, hts, List.append_assoc]
  | drop ts hts ih =>
      obtain ⟨ys, us, hys⟩ := ih
      exact ⟨ys, us, fun xs => (hf.drop hts _).trans (hys xs)⟩
  | keep u ts hu hgroup =>
      exact ⟨[], _, fun xs => (hf.keep hu hgroup _ ts).trans (hother _ ts xs)⟩

/-- A group in front of one that it is joined to goes in front of it. -/
theorem group_joined (hf : Joins fold comb wrap one) (h : Joined comb ts) :
    ∃ ys us, fold [] ts = wrap ys :: us ∧
      ∀ g, fold [] (.group g :: ts) = wrap (one g ++ ys) :: us := by
  induction h with
  | next h ts =>
      obtain ⟨ys, us, hts⟩ := hf.exists_added ts
      refine ⟨one h ++ ys, us, ?_, fun g => ?_⟩
      · rw [hf.start, hts]
      · rw [hf.enter, hf.merge, hts, List.append_assoc]
  | more h ih =>
      obtain ⟨ys, us, hts, hgroup⟩ := ih
      have hne := h.ne_group hf.comb_ne
      refine ⟨ys, us, ?_, fun g => ?_⟩
      · rw [hf.drop hne, hts]
      · rw [hf.enter, hf.drop hne, ← hf.enter, hgroup]

/-- A group that is joined to none stands by itself. -/
theorem group_apart (hf : Joins fold comb wrap one) (h : ¬Joined comb ts) (g : Group) :
    fold [] (.group g :: ts) = wrap (one g) :: fold [] ts := by
  rw [hf.enter]
  induction ts using hf.induction with
  | nil => rw [hf.nil, hf.nil]; rfl
  | group k ts => rw [hf.enter, hf.enter, hf.cons]; rfl
  | merge k ts => exact absurd (.next k ts) h
  | drop ts hts ih => rw [hf.drop hts, hf.drop hts, ih fun hjoined => h hjoined.more]
  | keep u ts hu hgroup => rw [hf.keep hu hgroup, hf.keep hu hgroup, hf.cons]; rfl

end Joins

/-! ### What joins groups -/

/-- What joins a group to the next one. -/
inductive Link where
  /-- There is no next group, or a token of another kind before it. -/
  | none
  /-- It follows at once. -/
  | touching
  /-- Pipes alone. -/
  | pipes
  /-- Combinators, with a plus among them. -/
  | pluses
deriving DecidableEq

def Link.addPipe : Link → Link
  | .touching => .pipes
  | l => l

def Link.addPlus : Link → Link
  | .none => .none
  | _ => .pluses

/-- What joins a group to the first group of the tokens after it. -/
def link : List Token → Link
  | .group _ :: _ => .touching
  | .pipe :: ts => (link ts).addPipe
  | .plus :: ts => (link ts).addPlus
  | _ => .none

variable {ts : List Token} {t : Token}

theorem exists_group_of_touching (h : link ts = .touching) : ∃ g rest, ts = .group g :: rest := by
  fun_cases link ts with
  | case1 g rest => exact ⟨g, rest, rfl⟩
  | case2 ts => cases hl : link ts <;> simp [link, Link.addPipe, hl] at h
  | case3 ts => cases hl : link ts <;> simp [link, Link.addPlus, hl] at h
  | case4 => simp [link] at h

theorem link_eq_pipes : link ts = .pipes ↔ Joined .pipe ts := by
  refine ⟨fun h => ?_, fun h => ?_⟩
  · fun_induction link ts with
    | case2 ts ih =>
        cases hl : link ts with
        | none | pluses => rw [hl] at h; nomatch h
        | pipes => exact .more (ih hl)
        | touching =>
            obtain ⟨g, rest, rfl⟩ := exists_group_of_touching hl
            exact .next g rest
    | case3 ts => cases hl : link ts <;> rw [hl] at h <;> nomatch h
    | case1 | case4 => nomatch h
  · induction h with
    | next g ts => rfl
    | more _ ih => rw [link, ih]; rfl

theorem link_eq_pluses (hpipe : .pipe ∉ ts) : link ts = .pluses ↔ Joined .plus ts := by
  refine ⟨fun h => ?_, fun h => ?_⟩
  · fun_induction link ts with
    | case2 ts => exact absurd List.mem_cons_self hpipe
    | case3 ts ih =>
        have hpipe : .pipe ∉ ts := List.not_mem_of_not_mem_cons hpipe
        cases hl : link ts with
        | none => rw [hl] at h; nomatch h
        | pipes => exact absurd (link_eq_pipes.1 hl).mem hpipe
        | pluses => exact .more (ih hpipe hl)
        | touching =>
            obtain ⟨g, rest, rfl⟩ := exists_group_of_touching hl
            exact .next g rest
    | case1 | case4 => nomatch h
  · clear hpipe
    induction h with
    | next g ts => rfl
    | more _ ih => rw [link, ih]; rfl

theorem joinPipes_kept (hpipe : t ≠ .pipe) (hgroup : ∀ g, t ≠ .group g) (ts : List Token) :
    joinPipes (t :: ts) = t :: joinPipes ts :=
  joins_pipes.kept hpipe hgroup hgroup ts

theorem joinPipes_plus (ts : List Token) : joinPipes (.plus :: ts) = .plus :: joinPipes ts :=
  joinPipes_kept (by simp) (by simp) ts

/-- Pipes are no longer there when pluses are read. -/
theorem link_joinPipes (ts : List Token) :
    link (joinPipes ts) = if link ts = .pipes then .touching else link ts := by
  induction ts with
  | nil => rfl
  | cons t ts ih =>
      cases t with
      | group g =>
          obtain ⟨ys, us, hts⟩ := joins_pipes.exists_added ts
          show link (joinPipesOnto [.group g] ts) = .touching
          rw [hts]
          rfl
      | pipe =>
          rw [joinPipes, joins_pipes.drop_nil, ← joinPipes, ih, link]
          cases link ts <;> rfl
      | plus =>
          rw [joinPipes_plus, link, ih, link]
          cases link ts <;> rfl
      | _ =>
          rw [joinPipes_kept]
          · rfl
          all_goals simp

theorem pipe_notMem_joinPipes (ts : List Token) : .pipe ∉ joinPipes ts := by
  have hkept : ∀ t ∈ joinPipes ts, t ≠ .pipe :=
    forall_joinPipes (P := fun _ => True) (fun _ _ => trivial) (fun _ _ hpipe => hpipe)
      (fun _ _ _ _ => nofun)
  exact fun hmem => hkept _ hmem rfl

/-! ### Both folds from the right -/

theorem foldCombinators_pipe (ts : List Token) :
    foldCombinators (.pipe :: ts) = foldCombinators ts :=
  congrArg joinPluses (joins_pipes.drop_nil ts)

theorem foldCombinators_plus (ts : List Token) :
    foldCombinators (.plus :: ts) = foldCombinators ts := by
  unfold foldCombinators
  rw [joinPipes_plus]
  exact joins_pluses.drop_nil (joinPipes ts)

theorem foldCombinators_kept (hpipe : t ≠ .pipe) (hplus : t ≠ .plus) (hgroup : ∀ g, t ≠ .group g)
    (hsequence : ∀ gs, t ≠ .sequence gs) (ts : List Token) :
    foldCombinators (t :: ts) = t :: foldCombinators ts := by
  unfold foldCombinators
  rw [joinPipes_kept hpipe hgroup]
  exact joins_pluses.kept hplus hgroup hsequence (joinPipes ts)

/-- A group is merged into the one it is piped to. -/
theorem foldCombinators_group_pipes (h : link ts = .pipes) : ∃ k gs us,
    foldCombinators ts = .sequence (k :: gs) :: us ∧
      ∀ g, foldCombinators (.group g :: ts) = .sequence ((g ++ k) :: gs) :: us := by
  obtain ⟨k, vs, hts, hgroup⟩ := joins_pipes.group_joined (link_eq_pipes.1 h)
  obtain ⟨gs, us, hvs⟩ := joins_pluses.exists_added vs
  refine ⟨k, gs, us, ?_, fun g => ?_⟩
  · show joinPlusesOnto [] (joinPipesOnto [] ts) = _
    rw [hts, joins_pluses.enter, hvs]
    rfl
  · show joinPlusesOnto [] (joinPipesOnto [] (.group g :: ts)) = _
    rw [hgroup, joins_pluses.enter, hvs]
    rfl

theorem foldCombinators_group_of_ne (h : link ts ≠ .pipes) (g : Group) :
    foldCombinators (.group g :: ts) = joinPluses (.group g :: joinPipes ts) :=
  congrArg joinPluses (joins_pipes.group_apart (fun hjoined => h (link_eq_pipes.2 hjoined)) g)

/-- A group goes into the sequence of the one it is added to. -/
theorem foldCombinators_group_pluses (h : link ts = .pluses) : ∃ gs us,
    foldCombinators ts = .sequence gs :: us ∧
      ∀ g, foldCombinators (.group g :: ts) = .sequence (g :: gs) :: us := by
  have hne : link ts ≠ .pipes := by rw [h]; nofun
  have hjoined : link (joinPipes ts) = .pluses := by rw [link_joinPipes, if_neg hne, h]
  obtain ⟨gs, us, hts, hgroup⟩ :=
    joins_pluses.group_joined ((link_eq_pluses (pipe_notMem_joinPipes ts)).1 hjoined)
  exact ⟨gs, us, hts, fun g => (foldCombinators_group_of_ne hne g).trans (hgroup g)⟩

/-- A group that is neither is a sequence by itself. -/
theorem foldCombinators_group_apart (hpipes : link ts ≠ .pipes) (hpluses : link ts ≠ .pluses)
    (g : Group) : foldCombinators (.group g :: ts) = .sequence [g] :: foldCombinators ts := by
  have hapart : ¬Joined .plus (joinPipes ts) := by
    rw [← link_eq_pluses (pipe_notMem_joinPipes ts), link_joinPipes, if_neg hpipes]
    exact hpluses
  rw [foldCombinators_group_of_ne hpipes]
  exact joins_pluses.group_apart hapart g

end PostSearch.Query
