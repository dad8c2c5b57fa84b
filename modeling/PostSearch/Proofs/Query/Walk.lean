import Mathlib.Data.List.Basic
import PostSearch.Query.ScopeWalk

/-! # What a walk keeps

The walk over a query leaves out scope starts and keeps all else in its order, so what does not
depend on scope starts can be read off the walk: conditions (`filterMap_withScopeFrom`), cost
(`complexity_withScopeFrom`). Every token of a walk is in one scope: what the tokens of the three
scopes hold, taken together, is what the query holds, in another order (`flatMap_inScope_perm`). -/

namespace PostSearch.Query

variable {α : Type} {tokens : List Token}

/-! ### Reading off the walk -/

theorem flatMap_withScopeFrom {f : Token → List α} (hf : ∀ s, f (.scopeStart s) = []) (s : Scope)
    (tokens : List Token) : (withScopeFrom s tokens).flatMap (fun p => f p.1) = tokens.flatMap f := by
  induction s, tokens using withScopeFrom.induct with
  | case1 s => rfl
  | case2 s s' ts ih => rw [withScopeFrom, ih, List.flatMap_cons, hf, List.nil_append]
  | case3 s s' g ts ih => rw [withScopeFrom, List.flatMap_cons, List.flatMap_cons, ih]
  | case4 s t ts hstart hinside ih =>
      rw [withScopeFrom, List.flatMap_cons, List.flatMap_cons, ih]
      · exact hstart
      · exact hinside

theorem filterMap_withScopeFrom {f : Token → Option α} (hf : ∀ s, f (.scopeStart s) = none)
    (s : Scope) (tokens : List Token) :
    (withScopeFrom s tokens).filterMap (fun p => f p.1) = tokens.filterMap f := by
  rw [List.filterMap_eq_flatMap_toList, List.filterMap_eq_flatMap_toList]
  exact flatMap_withScopeFrom (f := fun t => (f t).toList) (fun s => by rw [hf]; rfl) s tokens

theorem complexity_withScopeFrom (s : Scope) (tokens : List Token) :
    complexity ((withScopeFrom s tokens).map Prod.fst) = complexity tokens := by
  induction s, tokens using withScopeFrom.induct with
  | case1 s => rfl
  | case2 s s' ts ih => rw [withScopeFrom, ih, complexity, Token.complexity, Nat.zero_add]
  | case3 s s' g ts ih => rw [withScopeFrom, List.map_cons, complexity, complexity, ih]
  | case4 s t ts hstart hinside ih =>
      rw [withScopeFrom, List.map_cons, complexity, complexity, ih]
      · exact hstart
      · exact hinside

/-! ### Scope by scope -/

/-- What the tokens of a query hold is found once, scope by scope. -/
theorem flatMap_inScope_perm {f : Token → List α} (hf : ∀ s, f (.scopeStart s) = [])
    (tokens : List Token) :
    ((inScope .all tokens).flatMap f ++ (inScope .posts tokens).flatMap f ++
      (inScope .comments tokens).flatMap f).Perm (tokens.flatMap f) := by
  rw [← flatMap_withScopeFrom hf .all tokens]
  let part (s : Scope) (ps : List (Token × Scope)) :=
    ((ps.filter (·.2 = s)).map Prod.fst).flatMap f
  have hparts : ∀ ps, (part .all ps ++ part .posts ps ++ part .comments ps).Perm
      (ps.flatMap fun p => f p.1) := by
    intro ps
    induction ps with
    | nil => exact .nil
    | cons p ps ih =>
        obtain ⟨t, s⟩ := p
        rw [List.flatMap_cons]
        refine List.Perm.trans ?_ (ih.append_left (f t))
        cases s with
        | all =>
            change (f t ++ part .all ps ++ part .posts ps ++ part .comments ps).Perm _
            rw [List.append_assoc, List.append_assoc, List.append_assoc]
        | posts =>
            change (part .all ps ++ (f t ++ part .posts ps) ++ part .comments ps).Perm _
            rw [← List.append_assoc (f t)]
            exact (List.perm_append_comm_assoc _ _ _).append_right _
        | comments => exact List.perm_append_comm_assoc _ _ _
  exact hparts (withScopeFrom .all tokens)

/-! ### Conditions -/

def Token.condition? : Token → Option Condition
  | .condition c => some c
  | _ => none

def conditions (tokens : List Token) : List Condition :=
  tokens.filterMap Token.condition?

theorem conditions_withScopeFrom (s : Scope) (tokens : List Token) :
    conditions ((withScopeFrom s tokens).map Prod.fst) = conditions tokens := by
  unfold conditions
  rw [List.filterMap_map]
  exact filterMap_withScopeFrom (fun _ => rfl) s tokens

theorem filterMap_condition {p : Condition → Prop} [DecidablePred p] :
    tokens.filterMap (fun
      | .condition c => if p c then some c else none
      | _ => none) = (conditions tokens).filter p := by
  unfold conditions
  rw [List.filter_filterMap]
  refine List.filterMap_congr fun t _ => ?_
  cases t with
  | condition c =>
      by_cases h : p c <;> simp [Token.condition?, Option.filter, h]
  | _ => rfl

theorem conditionsOf_eq_filter (o : Operator) (tokens : List Token) :
    conditionsOf o tokens = (conditions tokens).filter (·.operator = o) :=
  filterMap_condition

theorem any_isCondition (o : Operator) (tokens : List Token) :
    tokens.any (·.isCondition o) = (conditions tokens).any (·.operator == o) := by
  unfold conditions
  rw [List.any_filterMap]
  congr 1
  funext t
  cases t <;> rfl

end PostSearch.Query
