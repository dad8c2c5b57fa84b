import PostSearch.Query.Token

/-! # Effective scopes

A scope start governs everything up to the next one, before the first of them everything is in
scope. `withScope` pairs every other token with the scope it applies to; `applyCommentScope` opens
the comment scope for conditions that make sense nowhere else. -/

namespace PostSearch.Query

/-- Tokens with the scopes they apply to, `current` being the scope at the start. -/
def withScopeFrom (current : Scope) : List Token → List (Token × Scope)
  | [] => []
  | .scopeStart s :: rest => withScopeFrom s rest
  | .inScope s g :: rest => (.inScope s g, s) :: withScopeFrom current rest
  | t :: rest => (t, current) :: withScopeFrom current rest

/-- Every token but scope starts, with the scope it applies to. -/
def withScope (tokens : List Token) : List (Token × Scope) :=
  withScopeFrom .all tokens

/-- The tokens that apply to exactly the given scope. -/
def inScope (scope : Scope) (tokens : List Token) : List Token :=
  ((withScope tokens).filter (·.2 = scope)).map Prod.fst

def Token.isCondition (operator : Operator) : Token → Bool
  | .condition c => c.operator == operator
  | _ => false

def conditionsOf (operator : Operator) (tokens : List Token) : List Condition :=
  tokens.filterMap fun
    | .condition c => if c.operator = operator then some c else none
    | _ => none

/-- The scope of the last scope start. -/
def lastScope? (tokens : List Token) : Option Scope :=
  tokens.reverse.findSome? fun
    | .scopeStart s => some s
    | _ => none

/-- Make room for the first condition of an operator that belongs into comments: without a scope
start before it the comment scope is opened for the whole query, in another scope the condition is
dropped. -/
def openCommentScope (operator : Operator) (tokens : List Token) : List Token :=
  let before := tokens.takeWhile (!·.isCondition operator)
  match tokens.dropWhile (!·.isCondition operator) with
  | [] => tokens
  | _ :: after =>
    match lastScope? before with
    | none => .scopeStart .comments :: tokens
    | some .comments => tokens
    | some _ => before ++ after

/-- Open the comment scope for the operators that belong into comments. -/
def applyCommentScope (tokens : List Token) : List Token :=
  Operator.commentOnly.foldl (fun tokens operator => openCommentScope operator tokens) tokens

/-! ### Members -/

variable {tokens : List Token} {c : Condition}

theorem mem_filterMap_condition {p : Condition → Prop} [DecidablePred p] :
    c ∈ tokens.filterMap (fun
      | .condition c => if p c then some c else none
      | _ => none) ↔ .condition c ∈ tokens ∧ p c := by
  rw [List.mem_filterMap]
  constructor
  · rintro ⟨t, ht, h⟩
    split at h
    · split at h
      · rename_i hp
        cases h
        exact ⟨ht, hp⟩
      · cases h
    · cases h
  · rintro ⟨hc, hp⟩
    exact ⟨_, hc, if_pos hp⟩

theorem mem_conditionsOf {o : Operator} :
    c ∈ conditionsOf o tokens ↔ .condition c ∈ tokens ∧ c.operator = o :=
  mem_filterMap_condition (p := fun c => c.operator = o)

theorem mem_of_withScopeFrom {p : Token × Scope} {s : Scope} (h : p ∈ withScopeFrom s tokens) :
    p.1 ∈ tokens := by
  induction s, tokens using withScopeFrom.induct with
  | case1 s => cases h
  | case2 s t ts ih => exact List.mem_cons_of_mem _ (ih h)
  | case3 s t g ts ih =>
      rcases List.mem_cons.1 h with rfl | h
      · exact List.mem_cons_self
      · exact List.mem_cons_of_mem _ (ih h)
  | case4 s t ts hstart hinside ih =>
      rw [withScopeFrom] at h
      · rcases List.mem_cons.1 h with rfl | h
        · exact List.mem_cons_self
        · exact List.mem_cons_of_mem _ (ih h)
      · exact hstart
      · exact hinside

theorem mem_of_inScope {t : Token} {s : Scope} (h : t ∈ inScope s tokens) : t ∈ tokens := by
  obtain ⟨p, hp, rfl⟩ := List.mem_map.1 h
  exact mem_of_withScopeFrom (List.mem_filter.1 hp).1

end PostSearch.Query
