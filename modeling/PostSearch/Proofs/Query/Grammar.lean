import Mathlib.Data.List.Basic
import PostSearch.Proofs.Query.Joins

/-! # The grammar of combinators

What tokens fold to is a list of blocks, each of them with the tokens it is made of (`blocksOf`):
tokens that are kept, and sequences that remember the groups merged into each of their groups. So
every group has its place in the output (`places`). A token in front moves the places of all groups
after it in the same way (`exists_places_cons`), which keeps how they stand to each other: how two
neighbours stand is settled by the tokens between them (`exists_places_neighbours`).

Main statement: `foldCombinators_grammar`. -/

namespace PostSearch.Query

/-- A place in the output: the token's, and the group's in the token. -/
abbrev Place := Nat × Nat

variable {ts mid : List Token} {t : Token} {g : Group} {l : Link} {p q : Place}

/-! ### Blocks -/

/-- A token of the output with what it is made of: a token that was kept, or a sequence with the
groups that were merged into each of its groups. -/
inductive Block where
  | kept (token : Token)
  | texts (merged : List (List Group))

/-- The token of the output. -/
def Block.token : Block → Token
  | .kept t => t
  | .texts gss => .sequence (gss.map List.flatten)

/-- The tokens of the input. -/
def Block.written : Block → List Token
  | .kept t => [t]
  | .texts gss => gss.flatten.map .group

/-- Put a group in front that is joined to the next one as `link` says. -/
def attach (g : Group) : Link → List Block → List Block
  | .none, bs | .touching, bs => .texts [[g]] :: bs
  | .pipes, .texts (gs :: gss) :: bs => .texts ((g :: gs) :: gss) :: bs
  | .pluses, .texts gss :: bs => .texts ([g] :: gss) :: bs
  -- not reached: a next group is in a sequence already (`exists_blocksOf`)
  | _, bs => .texts [[g]] :: bs

/-- The blocks that tokens fold to. -/
def blocksOf : List Token → List Block
  | [] => []
  | .group g :: ts => attach g (link ts) (blocksOf ts)
  | .pipe :: ts | .plus :: ts => blocksOf ts
  | t :: ts => .kept t :: blocksOf ts

/-- Combinators join groups and are dropped. -/
def Token.isCombinator : Token → Bool
  | .pipe | .plus => true
  | _ => false

theorem exists_blocksOf (hts : link ts = l) (hl : l ≠ .none) :
    ∃ g gs gss bs, blocksOf ts = .texts ((g :: gs) :: gss) :: bs := by
  induction ts generalizing l with
  | nil => exact absurd hts.symm hl
  | cons t ts ih =>
      cases t with
      | group g =>
          rw [blocksOf]
          cases hrest : link ts with
          | none | touching => exact ⟨g, [], [], _, rfl⟩
          | pipes | pluses =>
              obtain ⟨k, ks, gss, bs, hblocks⟩ := ih hrest nofun
              rw [hblocks]
              exact ⟨_, _, _, _, rfl⟩
      | pipe | plus =>
          refine ih rfl fun hnone => hl ?_
          rw [← hts, link, hnone]
          rfl
      | _ => exact absurd hts.symm hl

theorem token_cons_singleton (g : Group) (gss : List (List Group)) :
    (Block.texts ([g] :: gss)).token = .sequence (g :: gss.map List.flatten) := by
  rw [Block.token, List.map_cons, List.flatten_singleton]

/-- A group goes into the block that its token goes into. -/
theorem map_token_attach (ih : (blocksOf ts).map Block.token = foldCombinators ts) (g : Group) :
    (attach g (link ts) (blocksOf ts)).map Block.token = foldCombinators (.group g :: ts) := by
  cases hl : link ts with
  | pipes =>
      obtain ⟨k, ks, gss, bs, hts⟩ := exists_blocksOf hl nofun
      obtain ⟨k', gs, us, hfold, hgroup⟩ := foldCombinators_group_pipes hl
      rw [hts, hfold] at ih
      obtain ⟨hsequence, rfl⟩ := List.cons.inj ih
      obtain ⟨rfl, rfl⟩ := List.cons.inj (Token.sequence.inj hsequence)
      rw [hts, hgroup]
      rfl
  | pluses =>
      obtain ⟨k, ks, gss, bs, hts⟩ := exists_blocksOf hl nofun
      obtain ⟨gs, us, hfold, hgroup⟩ := foldCombinators_group_pluses hl
      rw [hts, hfold] at ih
      obtain ⟨hsequence, rfl⟩ := List.cons.inj ih
      obtain rfl := Token.sequence.inj hsequence
      rw [hts, hgroup, attach, List.map_cons, token_cons_singleton]
  | none | touching =>
      rw [foldCombinators_group_apart (by rw [hl]; nofun) (by rw [hl]; nofun), ← ih, attach,
        List.map_cons, token_cons_singleton]
      rfl

theorem map_token_blocksOf (h : ∀ gs, .sequence gs ∉ ts) :
    (blocksOf ts).map Block.token = foldCombinators ts := by
  induction ts with
  | nil => rfl
  | cons t ts ih =>
      have ih := ih fun gs hgs => h gs (List.mem_cons_of_mem t hgs)
      cases t with
      | group g => exact map_token_attach ih g
      | pipe => exact ih.trans (foldCombinators_pipe ts).symm
      | plus => exact ih.trans (foldCombinators_plus ts).symm
      | sequence gs => exact absurd List.mem_cons_self (h gs)
      | _ =>
          rw [foldCombinators_kept, ← ih]
          · rfl
          all_goals simp

theorem written_attach (g : Group) (l : Link) (bs : List Block) :
    (attach g l bs).flatMap Block.written = .group g :: bs.flatMap Block.written := by
  fun_cases attach g l bs <;> rfl

/-- All tokens but combinators are in the output, in order. -/
theorem written_blocksOf (ts : List Token) :
    (blocksOf ts).flatMap Block.written = ts.filter (!·.isCombinator) := by
  induction ts with
  | nil => rfl
  | cons t ts ih =>
      cases t with
      | group g => rw [blocksOf, written_attach, ih]; rfl
      | pipe | plus => exact ih
      | _ => exact congrArg (List.cons _) ih

/-- The groups that went into a token, in order and with their places. -/
def Block.places (n : Nat) : Block → List (Group × Place)
  | .kept _ => []
  | .texts gss => gss.zipIdx.flatMap fun (gs, j) => gs.map (·, n, j)

/-- The groups that went into the output, in order and with their places. -/
def places (blocks : List Block) : List (Group × Place) :=
  blocks.zipIdx.flatMap fun (b, n) => b.places n

/-- Where a group stands once another one is put in front. -/
def Link.shift : Link → Place → Place
  | .pipes, p => p
  | .pluses, (n, j) => if n = 0 then (0, j + 1) else (n, j)
  | _, (n, j) => (n + 1, j)

theorem Block.places_succ (n : Nat) (b : Block) :
    b.places (n + 1) = (b.places n).map (Prod.map id Link.none.shift) := by
  cases b with
  | kept t => rfl
  | texts gss =>
      rw [Block.places, Block.places, List.map_flatMap]
      refine List.flatMap_congr fun p _ => ?_
      rw [List.map_map]
      rfl

theorem places_cons (b : Block) (bs : List Block) :
    places (b :: bs) = b.places 0 ++ (places bs).map (Prod.map id Link.none.shift) := by
  unfold places
  rw [List.zipIdx_cons', List.flatMap_cons, List.flatMap_map, List.map_flatMap]
  exact congrArg _ (List.flatMap_congr fun p _ => p.1.places_succ p.2)

/-- The groups after the first one of a sequence stand one further. -/
theorem places_texts_cons (gs : List Group) (gss : List (List Group)) :
    (Block.texts (gs :: gss)).places 0 =
      gs.map (·, 0, 0) ++ ((Block.texts gss).places 0).map (Prod.map id Link.pluses.shift) := by
  rw [Block.places, Block.places, List.zipIdx_cons', List.flatMap_cons, List.flatMap_map,
    List.map_flatMap]
  refine congrArg _ (List.flatMap_congr fun p _ => ?_)
  rw [List.map_map]
  rfl

/-- Tokens after the first one stay where they are when a group is added to it. -/
theorem map_shift_pluses (ps : List (Group × Place)) :
    (ps.map (Prod.map id Link.none.shift)).map (Prod.map id Link.pluses.shift) =
      ps.map (Prod.map id Link.none.shift) := by
  rw [List.map_map]
  rfl

theorem places_group (g : Group) (ts : List Token) : places (blocksOf (.group g :: ts)) =
    (g, 0, 0) :: (places (blocksOf ts)).map (Prod.map id (link ts).shift) := by
  rw [blocksOf]
  cases hl : link ts with
  | none | touching => rw [attach, places_cons]; rfl
  | pipes =>
      obtain ⟨k, ks, gss, bs, hts⟩ := exists_blocksOf hl nofun
      have hshift : Prod.map id Link.pipes.shift = (id : Group × Place → Group × Place) := rfl
      rw [hts, attach, places_cons, places_cons, places_texts_cons, places_texts_cons, hshift,
        List.map_id]
      rfl
  | pluses =>
      obtain ⟨k, ks, gss, bs, hts⟩ := exists_blocksOf hl nofun
      rw [hts, attach, places_cons, places_cons, places_texts_cons, List.map_append,
        map_shift_pluses]
      rfl

/-- A place names a group of the output that what stands there went into. -/
theorem mem_places {bs : List Block} {n j : Nat} (h : (g, n, j) ∈ places bs) :
    ∃ gss gs, bs[n]? = some (.texts gss) ∧ gss[j]? = some gs ∧ g ∈ gs := by
  obtain ⟨⟨b, m⟩, hb, hplace⟩ := List.mem_flatMap.1 h
  cases b with
  | kept t => exact absurd hplace List.not_mem_nil
  | texts gss =>
      obtain ⟨⟨gs, i⟩, hgs, hplace⟩ := List.mem_flatMap.1 hplace
      obtain ⟨k, hk, heq⟩ := List.mem_map.1 hplace
      obtain ⟨rfl, rfl, rfl⟩ : k = g ∧ m = n ∧ i = j := by simpa using heq
      exact ⟨gss, gs, List.mk_mem_zipIdx_iff_getElem?.1 hb, List.mk_mem_zipIdx_iff_getElem?.1 hgs,
        hk⟩

def groups (tokens : List Token) : List Group :=
  tokens.filterMap fun
    | .group g => some g
    | _ => none

theorem groups_cons (t : Token) (ts : List Token) : groups (t :: ts) = groups [t] ++ groups ts := by
  cases t <;> rfl

/-- A token in front moves the groups after it, all in the same way. -/
theorem exists_places_cons (t : Token) (ts : List Token) :
    ∃ (ps : List (Group × Place)) (l : Link), ps.map Prod.fst = groups [t] ∧
      places (blocksOf (t :: ts)) = ps ++ (places (blocksOf ts)).map (Prod.map id l.shift) := by
  cases t with
  | group g => exact ⟨[(g, 0, 0)], link ts, rfl, places_group g ts⟩
  | pipe | plus => exact ⟨[], .pipes, rfl, (List.map_id _).symm⟩
  | _ =>
      refine ⟨[], .none, rfl, ?_⟩
      rw [blocksOf, places_cons]
      · rfl
      all_goals simp

theorem map_fst_places (ts : List Token) : (places (blocksOf ts)).map Prod.fst = groups ts := by
  induction ts with
  | nil => rfl
  | cons t ts ih =>
      obtain ⟨ps, l, hps, hplaces⟩ := exists_places_cons t ts
      rw [hplaces, List.map_append, List.map_map, hps, groups_cons t ts, ← ih]
      rfl

/-! ### Neighbours -/

/-- How two neighbours stand to each other that are joined so. -/
def Link.Relates : Link → Place → Place → Prop
  | .pipes, p, q => p = q
  | .pluses, p, q => p.1 = q.1 ∧ p ≠ q
  | _, p, q => p.1 ≠ q.1

theorem Link.fst_shift_pluses (p : Place) : (Link.pluses.shift p).1 = p.1 := by
  obtain ⟨n, j⟩ := p
  by_cases hn : n = 0
  · rw [shift, if_pos hn, hn]
  · rw [shift, if_neg hn]

theorem Link.fst_shift_inj : (l.shift p).1 = (l.shift q).1 ↔ p.1 = q.1 := by
  cases l with
  | pipes => rfl
  | pluses => rw [fst_shift_pluses, fst_shift_pluses]
  | none | touching => exact Nat.succ_inj

theorem Link.shift_inj : l.shift p = l.shift q ↔ p = q := by
  refine ⟨fun h => ?_, congrArg _⟩
  have hfst : p.1 = q.1 := fst_shift_inj.1 (congrArg Prod.fst h)
  obtain ⟨n, j⟩ := p
  obtain ⟨m, k⟩ := q
  obtain rfl : n = m := hfst
  cases l with
  | pipes => exact h
  | pluses =>
      by_cases hn : n = 0
      · simpa [shift, hn] using h
      · simpa [shift, hn] using h
  | none | touching => simpa [shift] using h

theorem Link.Relates.shift (h : l.Relates p q) (l' : Link) :
    l.Relates (l'.shift p) (l'.shift q) := by
  cases l with
  | pipes => exact shift_inj.2 h
  | pluses => exact ⟨fst_shift_inj.2 h.1, fun heq => h.2 (shift_inj.1 heq)⟩
  | none | touching => exact fun heq => h (fst_shift_inj.1 heq)

theorem link_between (hmid : ∀ k, .group k ∉ mid) (h : Group)
    (post : List Token) : link (mid ++ .group h :: post) =
      if mid.all Token.isCombinator then
        if .plus ∈ mid then .pluses else if mid = [] then .touching else .pipes
      else .none := by
  induction mid with
  | nil => rfl
  | cons t mid ih =>
      have ih := ih fun k hk => hmid k (List.mem_cons_of_mem t hk)
      cases t with
      | group k => exact absurd List.mem_cons_self (hmid k)
      | pipe =>
          have hall : (Token.pipe :: mid).all Token.isCombinator = mid.all Token.isCombinator := rfl
          have hmem : .plus ∈ Token.pipe :: mid ↔ .plus ∈ mid := by simp
          rw [List.cons_append, link, ih, hall, if_neg (List.cons_ne_nil _ _)]
          simp only [hmem]
          split
          · split
            · rfl
            · split <;> rfl
          · rfl
      | plus =>
          have hall : (Token.plus :: mid).all Token.isCombinator = mid.all Token.isCombinator := rfl
          rw [List.cons_append, link, ih, hall, if_pos List.mem_cons_self]
          split
          · split
            · rfl
            · split <;> rfl
          · rfl
      | _ => rfl

theorem isCombinator_iff : t.isCombinator = true ↔ t = .pipe ∨ t = .plus := by
  cases t <;> simp [Token.isCombinator]

theorem link_between_pipes (hmid : ∀ k, .group k ∉ mid) (h : Group)
    (post : List Token) :
    link (mid ++ .group h :: post) = .pipes ↔ mid ≠ [] ∧ ∀ t ∈ mid, t = .pipe := by
  rw [link_between hmid]
  constructor
  · intro hlink
    split at hlink
    · next hall =>
      split at hlink
      · nomatch hlink
      · next hplus =>
        split at hlink
        · nomatch hlink
        · next hnil =>
          refine ⟨hnil, fun t ht => ?_⟩
          rcases isCombinator_iff.1 (List.all_eq_true.1 hall t ht) with rfl | rfl
          · rfl
          · exact absurd ht hplus
    · nomatch hlink
  · rintro ⟨hnil, hpipes⟩
    have hall : mid.all Token.isCombinator :=
      List.all_eq_true.2 fun t ht => isCombinator_iff.2 (.inl (hpipes t ht))
    have hplus : .plus ∉ mid := fun hplus => nomatch hpipes _ hplus
    rw [if_pos hall, if_neg hplus, if_neg hnil]

theorem link_between_pluses (hmid : ∀ k, .group k ∉ mid) (h : Group)
    (post : List Token) : link (mid ++ .group h :: post) = .pluses ↔
      (∀ t ∈ mid, t = .pipe ∨ t = .plus) ∧ .plus ∈ mid := by
  have hall : mid.all Token.isCombinator = true ↔ ∀ t ∈ mid, t = .pipe ∨ t = .plus := by
    rw [List.all_eq_true]
    exact forall_congr' fun t => imp_congr_right fun _ => isCombinator_iff
  rw [link_between hmid, ← hall]
  by_cases hcombinators : mid.all Token.isCombinator
  · rw [if_pos hcombinators]
    by_cases hplus : .plus ∈ mid
    · rw [if_pos hplus]
      exact ⟨fun _ => ⟨hcombinators, hplus⟩, fun _ => rfl⟩
    · rw [if_neg hplus]
      refine ⟨fun hlink => ?_, fun h => absurd h.2 hplus⟩
      split at hlink <;> nomatch hlink
  · rw [if_neg hcombinators]
    exact ⟨nofun, fun h => absurd h.1 hcombinators⟩

/-- The first group stands at the very front, unless a token of another kind stands before it. -/
theorem exists_places_head (hmid : ∀ k, .group k ∉ mid) (h : Group)
    (post : List Token) : ∃ q qs, places (blocksOf (mid ++ .group h :: post)) = (h, q) :: qs ∧
      (link (mid ++ .group h :: post) ≠ .none → q = (0, 0)) := by
  induction mid with
  | nil => exact ⟨(0, 0), _, places_group h post, fun _ => rfl⟩
  | cons t mid ih =>
      obtain ⟨q, qs, hq, hlink⟩ := ih fun k hk => hmid k (List.mem_cons_of_mem t hk)
      cases t with
      | group k => exact absurd List.mem_cons_self (hmid k)
      | pipe | plus =>
          refine ⟨q, qs, hq, fun hne => hlink fun hnone => hne ?_⟩
          rw [List.cons_append, link, hnone]
          rfl
      | _ =>
          refine ⟨Link.none.shift q, qs.map (Prod.map id Link.none.shift), ?_,
            fun hne => absurd rfl hne⟩
          rw [List.cons_append, blocksOf, places_cons, hq]
          · rfl
          all_goals simp

theorem Link.relates_shift (hq : l ≠ .none → q = (0, 0)) : l.Relates (0, 0) (l.shift q) := by
  cases l with
  | none => exact (Nat.succ_ne_zero q.1).symm
  | touching => rw [hq nofun]; exact Nat.zero_ne_one
  | pipes => exact (hq nofun).symm
  | pluses => rw [hq nofun]; exact ⟨rfl, nofun⟩

/-- Groups with no group between them stand as they are joined. -/
theorem exists_places_neighbours (hmid : ∀ k, .group k ∉ mid) (g h : Group)
    (post pre : List Token) : ∃ before p q after,
      places (blocksOf (pre ++ .group g :: (mid ++ .group h :: post))) =
        before ++ (g, p) :: (h, q) :: after ∧
      before.map Prod.fst = groups pre ∧ (link (mid ++ .group h :: post)).Relates p q := by
  induction pre with
  | nil =>
      obtain ⟨q, qs, hhead, hq⟩ := exists_places_head hmid h post
      refine ⟨[], (0, 0), _, qs.map (Prod.map id (link (mid ++ .group h :: post)).shift), ?_, rfl,
        Link.relates_shift hq⟩
      rw [List.nil_append, places_group, hhead]
      rfl
  | cons t pre ih =>
      obtain ⟨before, p, q, after, hplaces, hbefore, hrelates⟩ := ih
      obtain ⟨ps, l, hps, hcons⟩ :=
        exists_places_cons t (pre ++ .group g :: (mid ++ .group h :: post))
      refine ⟨ps ++ before.map (Prod.map id l.shift), _, _, after.map (Prod.map id l.shift), ?_, ?_,
        hrelates.shift l⟩
      · rw [List.cons_append, hcons, hplaces, List.map_append, List.append_assoc]
        rfl
      · rw [List.map_append, List.map_map, hps, groups_cons t pre, ← hbefore]
        rfl

theorem Link.Relates.eq_iff (h : l.Relates p q) : p = q ↔ l = .pipes := by
  cases l with
  | pipes => exact ⟨fun _ => rfl, fun _ => h⟩
  | pluses => exact ⟨fun heq => absurd heq h.2, nofun⟩
  | none | touching => exact ⟨fun heq => absurd (congrArg Prod.fst heq) h, nofun⟩

theorem Link.Relates.fst_eq_iff (h : l.Relates p q) :
    p.1 = q.1 ∧ p ≠ q ↔ l = .pluses := by
  cases l with
  | pipes => exact ⟨fun hne => absurd h hne.2, nofun⟩
  | pluses => exact ⟨fun _ => rfl, fun _ => h⟩
  | none | touching => exact ⟨fun heq => absurd heq.1 h, nofun⟩

theorem Link.Relates.fst_ne_iff (h : l.Relates p q) :
    p.1 ≠ q.1 ↔ l ≠ .pipes ∧ l ≠ .pluses := by
  cases l with
  | pipes => exact ⟨fun hne => absurd (congrArg Prod.fst h) hne, fun hl => absurd rfl hl.1⟩
  | pluses => exact ⟨fun hne => absurd h.1 hne, fun hl => absurd rfl hl.2⟩
  | none | touching => exact ⟨fun _ => ⟨nofun, nofun⟩, fun _ => h⟩

/-! ### What folding keeps -/

/-- The texts of a token, in order. -/
def Token.leaves : Token → List Leaf
  | .leaf l => [l]
  | .group g | .inScope _ g => g
  | .sequence gs => gs.flatten
  | _ => []

/-- Tokens hold something that folding keeps: combinators hold nothing, and a group holds as much as
the groups that are merged into it. -/
structure IsContent {α : Type} (f : Token → List α) : Prop where
  pipe : f .pipe = []
  plus : f .plus = []
  sequence (gss : List (List Group)) :
    f (.sequence (gss.map List.flatten)) = gss.flatten.flatMap fun g => f (.group g)

theorem isContent_leaves : IsContent Token.leaves where
  pipe := rfl
  plus := rfl
  sequence _ := List.flatten_flatten.symm.trans List.flatMap_id'.symm

section Content

variable {α : Type} {f : Token → List α}

theorem IsContent.written (hf : IsContent f) (b : Block) : b.written.flatMap f = f b.token := by
  cases b with
  | kept t => exact List.append_nil _
  | texts gss =>
      rw [Block.written, Block.token, List.flatMap_map]
      exact (hf.sequence gss).symm

theorem IsContent.filter (hf : IsContent f) (ts : List Token) :
    (ts.filter (!·.isCombinator)).flatMap f = ts.flatMap f := by
  induction ts with
  | nil => rfl
  | cons t ts ih =>
      cases t with
      | pipe => rw [List.flatMap_cons, hf.pipe]; exact ih
      | plus => rw [List.flatMap_cons, hf.plus]; exact ih
      | _ => exact congrArg (_ ++ ·) ih

/-- What the tokens hold stays as it is, in order. -/
theorem IsContent.foldCombinators (hf : IsContent f) (h : ∀ gs, .sequence gs ∉ ts) :
    (foldCombinators ts).flatMap f = ts.flatMap f := by
  rw [← map_token_blocksOf h, List.flatMap_map, ← hf.filter ts, ← written_blocksOf ts,
    List.flatMap_assoc]
  exact List.flatMap_congr fun b _ => (hf.written b).symm

end Content

theorem complexity_append (ts us : List Token) :
    complexity (ts ++ us) = complexity ts + complexity us := by
  induction ts with
  | nil => exact (Nat.zero_add _).symm
  | cons t ts ih => rw [List.cons_append, complexity, complexity, ih, Nat.add_assoc]

theorem complexity_written (b : Block) : complexity b.written = b.token.complexity := by
  cases b with
  | kept t => rfl
  | texts gss =>
      have hgroups : ∀ gs : List Group, complexity (gs.map .group) = gs.flatten.length := by
        intro gs
        induction gs with
        | nil => rfl
        | cons g gs ih =>
            rw [List.map_cons, complexity, ih, List.flatten_cons, List.length_append]
            rfl
      rw [Block.written, hgroups, List.flatten_flatten]
      rfl

theorem complexity_filter (ts : List Token) :
    complexity (ts.filter (!·.isCombinator)) = complexity ts := by
  induction ts with
  | nil => rfl
  | cons t ts ih =>
      cases t with
      | pipe | plus => rw [complexity, Token.complexity, Nat.zero_add]; exact ih
      | _ => exact congrArg (_ + ·) ih

theorem leaves_foldCombinators (h : ∀ gs, .sequence gs ∉ ts) :
    (foldCombinators ts).flatMap Token.leaves = ts.flatMap Token.leaves :=
  isContent_leaves.foldCombinators h

theorem complexity_foldCombinators (h : ∀ gs, .sequence gs ∉ ts) :
    complexity (foldCombinators ts) = complexity ts := by
  rw [← map_token_blocksOf h, ← complexity_filter ts, ← written_blocksOf ts]
  induction blocksOf ts with
  | nil => rfl
  | cons b bs ih =>
      rw [List.map_cons, List.flatMap_cons, complexity_append, complexity_written, complexity, ih]

/-- No group stands by itself in the output, and no combinator is left. -/
theorem forall_foldCombinators (ts : List Token) :
    ∀ t ∈ foldCombinators ts, t ≠ .pipe ∧ t ≠ .plus ∧ ∀ g, t ≠ .group g :=
  forall_joinPluses (P := (· ≠ .pipe)) (fun _ ht hpipe => pipe_notMem_joinPipes ts (hpipe ▸ ht))
    (fun _ hpipe hplus hgroup => ⟨hpipe, hplus, hgroup⟩) (fun _ _ => ⟨nofun, nofun, nofun⟩)
    (fun _ _ _ _ => ⟨nofun, nofun, nofun⟩)

theorem filled_blocksOf (ts : List Token) (gss : List (List Group))
    (h : .texts gss ∈ blocksOf ts) : gss ≠ [] ∧ [] ∉ gss := by
  induction ts generalizing gss with
  | nil => exact absurd h List.not_mem_nil
  | cons t ts ih =>
      cases t with
      | group g =>
          rw [blocksOf] at h
          cases hl : link ts with
          | none | touching =>
              rw [hl, attach] at h
              rcases List.mem_cons.1 h with heq | h
              · obtain rfl := Block.texts.inj heq
                exact ⟨nofun, by simp⟩
              · exact ih gss h
          | pipes | pluses =>
              obtain ⟨k, ks, gss', bs, hts⟩ := exists_blocksOf hl nofun
              rw [hl, hts, attach] at h
              rw [hts] at ih
              have hhead := (ih _ List.mem_cons_self).2
              rcases List.mem_cons.1 h with heq | h
              · obtain rfl := Block.texts.inj heq
                exact ⟨nofun, by simpa using hhead⟩
              · exact ih gss (List.mem_cons_of_mem _ h)
      | pipe | plus => exact ih gss h
      | _ => exact ih gss ((List.mem_cons.1 h).resolve_left nofun)

/-- Folding computes the grammar: groups with nothing but pipes between them end in one group,
those with combinators and a plus among them in groups of one sequence, and any others in different
sequences. All other tokens stay as they are. -/
theorem foldCombinators_grammar (htokens : ∀ gs, .sequence gs ∉ ts) :
    ∃ blocks : List Block,
      foldCombinators ts = blocks.map Block.token ∧
      blocks.flatMap Block.written = ts.filter (!·.isCombinator) ∧
      (∀ gss, .texts gss ∈ blocks → gss ≠ [] ∧ [] ∉ gss) ∧
      (places blocks).map Prod.fst = groups ts ∧
      (∀ g n j, (g, n, j) ∈ places blocks → ∃ gs before after,
        (foldCombinators ts)[n]? = some (.sequence gs) ∧ gs[j]? = some (before ++ g ++ after)) ∧
      (∀ pre g mid h post, ts = pre ++ .group g :: (mid ++ .group h :: post) →
        (∀ k, .group k ∉ mid) → ∃ before p q after,
          places blocks = before ++ (g, p) :: (h, q) :: after ∧ before.map Prod.fst = groups pre ∧
          (p = q ↔ mid ≠ [] ∧ ∀ t ∈ mid, t = .pipe) ∧
          (p.1 = q.1 ∧ p ≠ q ↔ (∀ t ∈ mid, t = .pipe ∨ t = .plus) ∧ .plus ∈ mid) ∧
          (p.1 ≠ q.1 ↔ ¬(mid ≠ [] ∧ ∀ t ∈ mid, t = .pipe) ∧
            ¬((∀ t ∈ mid, t = .pipe ∨ t = .plus) ∧ .plus ∈ mid))) ∧
      (foldCombinators ts).flatMap Token.leaves = ts.flatMap Token.leaves ∧
      (∀ t ∈ foldCombinators ts, t ≠ .pipe ∧ t ≠ .plus ∧ ∀ g, t ≠ .group g) ∧
      complexity (foldCombinators ts) = complexity ts := by
  refine ⟨blocksOf ts, (map_token_blocksOf htokens).symm, written_blocksOf ts, filled_blocksOf ts,
    map_fst_places ts, ?_, ?_, leaves_foldCombinators htokens, forall_foldCombinators ts,
    complexity_foldCombinators htokens⟩
  · intro g n j hplace
    obtain ⟨gss, gs, hn, hj, hg⟩ := mem_places hplace
    obtain ⟨before, after, rfl⟩ := List.append_of_mem hg
    refine ⟨gss.map List.flatten, before.flatten, after.flatten, ?_, ?_⟩
    · rw [← map_token_blocksOf htokens, List.getElem?_map, hn]
      rfl
    · rw [List.getElem?_map, hj]
      simp
  · rintro pre g mid h post rfl hmid
    obtain ⟨before, p, q, after, hplaces, hbefore, hrelates⟩ :=
      exists_places_neighbours hmid g h post pre
    refine ⟨before, p, q, after, hplaces, hbefore, ?_, ?_, ?_⟩
    · rw [hrelates.eq_iff, link_between_pipes hmid]
    · rw [hrelates.fst_eq_iff, link_between_pluses hmid]
    · rw [hrelates.fst_ne_iff, ← link_between_pipes hmid h post, ← link_between_pluses hmid h post]

/-- In `cat + mouse | dog` the last two end in one group. -/
theorem grammar_of_mouse_or_dog :
    (∀ gs, .sequence gs ∉ [Token.group [⟨false, false, "cat"⟩], .plus,
      .group [⟨false, false, "mouse"⟩], .pipe, .group [⟨false, false, "dog"⟩]]) ∧
    ∃ blocks before p q after,
      foldCombinators [.group [⟨false, false, "cat"⟩], .plus, .group [⟨false, false, "mouse"⟩],
        .pipe, .group [⟨false, false, "dog"⟩]] = blocks.map Block.token ∧
      places blocks =
        before ++ ([⟨false, false, "mouse"⟩], p) :: ([⟨false, false, "dog"⟩], q) :: after ∧
      p = q := by
  have htokens : ∀ gs, .sequence gs ∉ [Token.group [⟨false, false, "cat"⟩], .plus,
      .group [⟨false, false, "mouse"⟩], .pipe, .group [⟨false, false, "dog"⟩]] := by
    intro gs
    simp
  obtain ⟨blocks, htoken, -, -, -, -, hneighbours, -⟩ := foldCombinators_grammar htokens
  obtain ⟨before, p, q, after, hplaces, -, hpipes, -⟩ :=
    hneighbours [.group [⟨false, false, "cat"⟩], .plus] [⟨false, false, "mouse"⟩] [.pipe]
      [⟨false, false, "dog"⟩] [] rfl (by simp)
  exact ⟨htokens, blocks, before, p, q, after, htoken, hplaces, hpipes.2 (by simp)⟩

end PostSearch.Query
