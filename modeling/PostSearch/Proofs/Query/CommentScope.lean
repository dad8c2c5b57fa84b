import Mathlib.Data.List.TakeWhile
import PostSearch.Query.ScopeWalk

/-! # What the comment scope reaches

The implicit comment scope is decided by the first condition of each operator that belongs into
comments. `openCommentScope_standing` says what is left of such an operator's conditions, with the
scopes they apply to: all of them if the first one stands in the comments, all but the first
otherwise. A second condition in another scope is therefore never dropped.

Main statement: `applyCommentScope_comments_iff`. -/

namespace PostSearch.Query

variable {o o' : Operator} {s s' : Scope} {t : Token} {xs ys ts : List Token}

/-- The conditions of an operator, with the scopes they apply to when all before the first scope
start is in scope `s`. -/
def standing (o : Operator) (s : Scope) (tokens : List Token) : List (Token × Scope) :=
  (withScopeFrom s tokens).filter (·.1.isCondition o)

/-! ### Walks over parts of a query -/

theorem lastScope?_cons (t : Token) (ts : List Token) :
    lastScope? (t :: ts) = (lastScope? ts).or (lastScope? [t]) := by
  unfold lastScope?
  rw [List.reverse_cons, List.findSome?_append]
  rfl

/-- What follows a part of a query begins in the scope that this part ends in. -/
theorem withScopeFrom_append :
    withScopeFrom s (xs ++ ys) =
      withScopeFrom s xs ++ withScopeFrom ((lastScope? xs).getD s) ys := by
  induction s, xs using withScopeFrom.induct with
  | case1 s => rfl
  | case2 s s' ts ih =>
      rw [List.cons_append, withScopeFrom, withScopeFrom, ih, lastScope?_cons]
      cases lastScope? ts <;> rfl
  | case3 s s' g ts ih =>
      rw [List.cons_append, withScopeFrom, withScopeFrom, ih, lastScope?_cons]
      cases lastScope? ts <;> rfl
  | case4 s t ts hstart hinside ih =>
      have hlast : lastScope? [t] = none := by
        cases t with
        | scopeStart s' => exact absurd rfl (hstart s')
        | _ => rfl
      rw [List.cons_append, withScopeFrom, withScopeFrom, ih, lastScope?_cons, hlast, Option.or_none,
        List.cons_append]
      all_goals assumption

theorem standing_append :
    standing o s (xs ++ ys) = standing o s xs ++ standing o ((lastScope? xs).getD s) ys := by
  unfold standing
  rw [withScopeFrom_append, List.filter_append]

theorem standing_eq_nil (h : ∀ t ∈ ts, t.isCondition o = false) : standing o s ts = [] := by
  refine List.filter_eq_nil_iff.2 fun p hp hc => ?_
  rw [h p.1 (mem_of_withScopeFrom hp)] at hc
  cases hc

@[simp]
theorem standing_scopeStart : standing o s (.scopeStart s' :: ts) = standing o s' ts := rfl

theorem isCondition_iff : t.isCondition o = true ↔ ∃ c, t = .condition c ∧ c.operator = o := by
  cases t <;> simp [Token.isCondition]

theorem standing_cons (h : t.isCondition o = true) :
    standing o s (t :: ts) = (t, s) :: standing o s ts := by
  obtain ⟨c, rfl, -⟩ := isCondition_iff.1 h
  exact List.filter_cons_of_pos h

theorem standing_cons_of_ne (h : t.isCondition o = true) (ho : o ≠ o') :
    standing o' s (t :: ts) = standing o' s ts := by
  obtain ⟨c, rfl, rfl⟩ := isCondition_iff.1 h
  exact List.filter_cons_of_neg (by simpa [Token.isCondition] using ho)

/-! ### One operator -/

/-- All that opening the comment scope can come to. -/
theorem openCommentScope_cases (o : Operator) (ts : List Token) :
    ((∀ t ∈ ts, t.isCondition o = false) ∧ openCommentScope o ts = ts) ∨
    ∃ before t after, ts = before ++ t :: after ∧ (∀ b ∈ before, b.isCondition o = false) ∧
      t.isCondition o = true ∧
      ((lastScope? before = none ∧ openCommentScope o ts = .scopeStart .comments :: ts) ∨
        (lastScope? before = some .comments ∧ openCommentScope o ts = ts) ∨
        (∃ s, lastScope? before = some s ∧ s ≠ .comments ∧
          openCommentScope o ts = before ++ after)) := by
  have hbefore : ∀ b ∈ ts.takeWhile (!·.isCondition o), b.isCondition o = false := by
    intro b hb
    have := List.mem_takeWhile_imp hb
    rwa [Bool.not_eq_true'] at this
  have hsplit := List.takeWhile_append_dropWhile (p := (!·.isCondition o)) (l := ts)
  unfold openCommentScope
  dsimp only
  generalize ts.takeWhile (!·.isCondition o) = before at *
  cases hafter : ts.dropWhile (!·.isCondition o) with
  | nil =>
      rw [hafter, List.append_nil] at hsplit
      exact Or.inl ⟨hsplit ▸ hbefore, rfl⟩
  | cons t after =>
      have ht : t.isCondition o = true := by
        have := List.head?_dropWhile_not (p := (!·.isCondition o)) (l := ts)
        rw [hafter] at this
        simpa using this
      rw [hafter] at hsplit
      refine Or.inr ⟨before, t, after, hsplit.symm, hbefore, ht, ?_⟩
      cases hlast : lastScope? before with
      | none => exact Or.inl ⟨rfl, rfl⟩
      | some s =>
          cases s with
          | comments => exact Or.inr (Or.inl ⟨rfl, rfl⟩)
          | posts => exact Or.inr (Or.inr ⟨.posts, rfl, nofun, rfl⟩)
          | all => exact Or.inr (Or.inr ⟨.all, rfl, nofun, rfl⟩)

/-- Drop the first of the conditions unless it stands in the comments. -/
def dropStray : List (Token × Scope) → List (Token × Scope)
  | [] => []
  | p :: ps => if p.2 = .comments then p :: ps else ps

/-- Conditions of the operator: all are kept but a first one outside the comments, and what has no
scope start before it is in the comments now. -/
theorem openCommentScope_standing (o : Operator) (s : Scope) (ts : List Token) :
    standing o s (openCommentScope o ts) = dropStray (standing o .comments ts) := by
  rcases openCommentScope_cases o ts with ⟨hnone, h⟩ | ⟨before, t, after, rfl, hbefore, ht, h⟩
  · rw [h, standing_eq_nil hnone, standing_eq_nil hnone, dropStray]
  · have hfirst : ∀ s ts, standing o s (before ++ ts) =
        standing o ((lastScope? before).getD s) ts := fun s ts => by
      rw [standing_append, standing_eq_nil hbefore, List.nil_append]
    rcases h with ⟨hlast, h⟩ | ⟨hlast, h⟩ | ⟨s', hlast, hs', h⟩
    · rw [h, standing_scopeStart, hfirst, hlast, Option.getD_none, standing_cons ht, dropStray,
        if_pos rfl]
    · rw [h, hfirst, hfirst, hlast, Option.getD_some, Option.getD_some, standing_cons ht, dropStray,
        if_pos rfl]
    · rw [h, hfirst, hfirst, hlast, Option.getD_some, Option.getD_some, standing_cons ht, dropStray,
        if_neg hs']

theorem openCommentScope_standing_of_ne (ho : o ≠ o') :
    standing o' .comments (openCommentScope o ts) = standing o' .comments ts := by
  rcases openCommentScope_cases o ts with ⟨-, h⟩ | ⟨before, t, after, rfl, -, ht, h⟩
  · rw [h]
  · rcases h with ⟨-, h⟩ | ⟨-, h⟩ | ⟨s, -, -, h⟩
    · rw [h, standing_scopeStart]
    · rw [h]
    · rw [h, standing_append, standing_append, standing_cons_of_ne ht ho]

/-! ### All operators of comments -/

/-- An operator's conditions stand as if the query began in the comments, which makes no difference
as soon as a scope start precedes them. -/
def Settled (o : Operator) (ts : List Token) : Prop :=
  ∀ s, standing o s ts = standing o .comments ts

theorem settled_openCommentScope (o : Operator) (ts : List Token) :
    Settled o (openCommentScope o ts) := fun s => by
  rw [openCommentScope_standing, openCommentScope_standing]

/-- Opening the comment scope for another operator leaves a settled one settled. -/
theorem Settled.openCommentScope (h : Settled o' ts) (ho : o ≠ o') :
    Settled o' (openCommentScope o ts) := by
  intro s
  rcases openCommentScope_cases o ts with ⟨-, e⟩ | ⟨before, t, after, rfl, -, ht, e⟩
  · rw [e]
    exact h s
  · rcases e with ⟨-, e⟩ | ⟨-, e⟩ | ⟨s', -, -, e⟩
    · rw [e, standing_scopeStart, standing_scopeStart]
    · rw [e]
      exact h s
    · have := h s
      rw [standing_append, standing_append, standing_cons_of_ne ht ho, standing_cons_of_ne ht ho,
        ← standing_append, ← standing_append] at this
      rw [e]
      exact this

/-- What is left of the conditions of the operators that belong into comments. -/
theorem applyCommentScope_standing (ho : o ∈ Operator.commentOnly) :
    standing o .all (applyCommentScope ts) = dropStray (standing o .comments ts) := by
  have hne : Operator.commentLikedBy ≠ .commentLikeCount := nofun
  rcases List.mem_cons.1 ho with rfl | ho
  · have h := (settled_openCommentScope .commentLikedBy ts).openCommentScope hne.symm
    change standing .commentLikedBy .all (openCommentScope .commentLikeCount
      (openCommentScope .commentLikedBy ts)) = _
    rw [h, openCommentScope_standing_of_ne hne.symm, openCommentScope_standing]
  · obtain rfl := List.mem_singleton.1 ho
    change standing .commentLikeCount .all (openCommentScope .commentLikeCount
      (openCommentScope .commentLikedBy ts)) = _
    rw [openCommentScope_standing, openCommentScope_standing_of_ne hne]

theorem dropStray_comments_iff {ps : List (Token × Scope)} :
    (∀ p ∈ dropStray ps, p.2 = .comments) ↔ ∀ p ∈ ps.tail, p.2 = .comments := by
  cases ps with
  | nil => rfl
  | cons p ps =>
      rw [dropStray, List.tail_cons]
      split
      · rename_i hp
        rw [List.forall_mem_cons]
        exact and_iff_right hp
      · rfl

/-- The conditions of comments end up in the comments if and only if none but the first of each
operator stands in another scope that was opened before it. -/
theorem applyCommentScope_comments_iff (ts : List Token) :
    (∀ o ∈ Operator.commentOnly, ∀ p ∈ withScope (applyCommentScope ts),
      p.1.isCondition o = true → p.2 = .comments) ↔
    ∀ o ∈ Operator.commentOnly, ∀ p ∈ (standing o .comments ts).tail, p.2 = .comments := by
  refine forall₂_congr fun o ho => ?_
  rw [← dropStray_comments_iff, ← applyCommentScope_standing ho]
  refine forall_congr' fun p => ?_
  rw [standing, List.mem_filter]
  exact and_imp.symm

/-- Of two conditions on likes of comments that stand in the posts, only the first is dropped. -/
theorem applyCommentScope_keeps_repeated :
    let likes := fun n => Token.condition ⟨false, .commentLikeCount, [n, n]⟩
    ¬∀ p ∈ withScope (applyCommentScope [.scopeStart .posts, likes "1", likes "2"]),
      p.1.isCondition .commentLikeCount = true → p.2 = .comments := by
  intro likes h
  have hwalk : withScope (applyCommentScope [.scopeStart .posts, likes "1", likes "2"]) =
      [(likes "2", .posts)] := rfl
  rw [hwalk] at h
  cases h _ List.mem_cons_self rfl

end PostSearch.Query
