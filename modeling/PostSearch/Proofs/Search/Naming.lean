import PostSearch.Proofs.Except
import PostSearch.Search.Compile

/-! # Writing out the viewer's name

Where a query says `me`, the viewer's username is written before accounts are looked up, token by
token (`nameViewerIn_namedBy`). This changes nothing but arguments of conditions on accounts: all
tokens keep their scopes (`withScopeFrom_named`, `touches_named`), and conditions on anything else
stay what they are (`conditionsOf_named`). -/

namespace PostSearch.Search

open Query

variable {viewer : Option Account} {tokens named : List Token}

/-- What becomes of a token: a condition on accounts may change its arguments. -/
def NamedAs (t u : Token) : Prop :=
  t = u ∨ ∃ c d : Condition, t = .condition c ∧ u = .condition d ∧
    c.operator.takesAccounts = true ∧ d.operator = c.operator

/-- What becomes of a token for the viewer. -/
inductive NamedBy (viewer : Option Account) : Token → Token → Prop
  | condition {c d : Condition} (naming : nameViewer viewer c = .ok d) :
      NamedBy viewer (.condition c) (.condition d)
  | other {t : Token} (other : ∀ c, t ≠ .condition c) : NamedBy viewer t t

/-- Names stand in no condition on an interval. -/
theorem takesAccounts_of_takesInterval {o : Operator} (h : o.takesInterval = true) :
    o.takesAccounts = false := by
  cases o <;> first | rfl | cases h

/-! ### One condition -/

/-- A condition is left alone, or its arguments are replaced one by one. -/
theorem nameViewer_ok {c d : Condition} (h : nameViewer viewer c = .ok d) :
    d = c ∨ c.operator.takesAccounts = true ∧
      ∃ rename : String → String, d = { c with args := c.args.map rename } := by
  unfold nameViewer at h
  split at h
  · rename_i hc
    cases viewer with
    | none => cases h
    | some me =>
        cases h
        exact Or.inr ⟨(Bool.and_eq_true_iff.1 hc).1, _, rfl⟩
  · cases h
    exact Or.inl rfl

theorem NamedBy.namedAs {t u : Token} (h : NamedBy viewer t u) : NamedAs t u := by
  cases h with
  | @condition c d h =>
      rcases nameViewer_ok h with rfl | ⟨hc, rename, rfl⟩
      · exact Or.inl rfl
      · exact Or.inr ⟨c, _, rfl, rfl, hc, rfl⟩
  | other => exact Or.inl rfl

/-! ### All tokens -/

theorem nameViewerIn_namedBy (h : nameViewerIn viewer tokens = .ok named) :
    List.Forall₂ (NamedBy viewer) tokens named := by
  refine (mapM_eq_ok h).imp fun t u h => ?_
  split at h
  · obtain ⟨d, hd, rfl⟩ := map_eq_ok.1 h
    exact .condition hd
  · rename_i hother
    cases h
    exact .other hother

theorem nameViewerIn_ok (h : nameViewerIn viewer tokens = .ok named) :
    List.Forall₂ NamedAs tokens named :=
  (nameViewerIn_namedBy h).imp fun _ _ => NamedBy.namedAs

theorem nameViewerIn_append (xs ys : List Token) : nameViewerIn viewer (xs ++ ys) = (do
    return (← nameViewerIn viewer xs) ++ (← nameViewerIn viewer ys)) :=
  List.mapM_append

theorem withScopeFrom_named {R : Token → Token → Prop} (hR : ∀ t u, R t u → NamedAs t u)
    (h : List.Forall₂ R tokens named) (s : Scope) :
    List.Forall₂ (fun p q => R p.1 q.1 ∧ p.2 = q.2) (withScopeFrom s tokens)
      (withScopeFrom s named) := by
  induction h generalizing s with
  | nil => exact .nil
  | cons ht _ ih =>
      rcases hR _ _ ht with rfl | ⟨c, d, rfl, rfl, -, -⟩
      · rename_i t _ _ _
        cases t with
        | scopeStart s' => exact ih s'
        | _ => exact .cons ⟨ht, rfl⟩ (ih s)
      · exact .cons ⟨ht, rfl⟩ (ih s)

theorem scopes_named (h : List.Forall₂ NamedAs tokens named) (s : Scope) :
    (withScopeFrom s named).map Prod.snd = (withScopeFrom s tokens).map Prod.snd := by
  have hwalk := withScopeFrom_named (fun _ _ ht => ht) h s
  generalize withScopeFrom s tokens = ps at hwalk ⊢
  generalize withScopeFrom s named = qs at hwalk ⊢
  induction hwalk with
  | nil => rfl
  | cons hp _ ih => rw [List.map_cons, List.map_cons, ih, hp.2]

theorem touches_eq (p : Scope → Bool) (tokens : List Token) :
    touches p tokens = ((withScope tokens).map Prod.snd).any p := by
  rw [List.any_map]
  rfl

theorem touches_named (p : Scope → Bool) (h : List.Forall₂ NamedAs tokens named) :
    touches p named = touches p tokens := by
  rw [touches_eq, touches_eq, withScope, withScope, scopes_named h]

theorem conditionsOf_named {o : Operator} (ho : o.takesAccounts = false)
    (h : List.Forall₂ NamedAs tokens named) : conditionsOf o named = conditionsOf o tokens := by
  induction h with
  | nil => rfl
  | cons ht _ ih =>
      rw [conditionsOf, List.filterMap_cons, conditionsOf, List.filterMap_cons]
      rw [conditionsOf, conditionsOf] at ih
      rcases ht with rfl | ⟨c, d, rfl, rfl, hc, hd⟩
      · rw [ih]
      · have hne : c.operator ≠ o := by
          rintro rfl
          rw [hc] at ho
          cases ho
        simp only [hd, if_neg hne, ih]

end PostSearch.Search
