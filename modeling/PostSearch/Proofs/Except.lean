import Mathlib.Data.List.Forall2

/-! # Steps that may fail

What a sequence of steps has done when it did not fail, and when two sequences do alike. -/

namespace PostSearch

variable {ε ε' α α' β β' : Type}

theorem bind_eq_ok {x : Except ε α} {f : α → Except ε β} {b : β} :
    x >>= f = .ok b ↔ ∃ a, x = .ok a ∧ f a = .ok b := by
  cases x with
  | error e =>
      constructor
      · intro h
        cases h
      · rintro ⟨a, h, -⟩
        cases h
  | ok a =>
      constructor
      · exact fun h => ⟨a, rfl, h⟩
      · rintro ⟨a', h, h'⟩
        cases h
        exact h'

theorem mapError_eq_ok {x : Except ε α} {f : ε → ε'} {a : α} :
    x.mapError f = .ok a ↔ x = .ok a := by
  cases x with
  | error e =>
      constructor <;> intro h <;> cases h
  | ok b =>
      constructor <;> intro h <;> cases h <;> rfl

theorem map_eq_ok {x : Except ε α} {f : α → β} {b : β} :
    x.map f = .ok b ↔ ∃ a, x = .ok a ∧ f a = b := by
  cases x with
  | error e =>
      constructor
      · intro h
        cases h
      · rintro ⟨a, h, -⟩
        cases h
  | ok a =>
      constructor
      · intro h
        cases h
        exact ⟨a, rfl, rfl⟩
      · rintro ⟨a', h, rfl⟩
        cases h
        rfl

theorem map_eq_error {x : Except ε α} {f : α → β} {e : ε} :
    x.map f = .error e ↔ x = .error e := by
  cases x with
  | error e' =>
      constructor <;> intro h <;> cases h <;> rfl
  | ok a =>
      constructor <;> intro h <;> cases h

theorem exists_eq_ok {x : Except ε α} (h : x.isOk = true) : ∃ a, x = .ok a := by
  cases x with
  | error e => cases h
  | ok a => exact ⟨a, rfl⟩

/-- The results of a list of steps are results of its members, in order. -/
theorem mapM_eq_ok {f : α → Except ε β} : ∀ {xs : List α} {ys : List β},
    xs.mapM f = .ok ys → List.Forall₂ (fun x y => f x = .ok y) xs ys
  | [], ys, h => by
      rw [List.mapM_nil] at h
      cases h
      exact .nil
  | x :: xs, ys, h => by
      rw [List.mapM_cons] at h
      obtain ⟨y, hy, h⟩ := bind_eq_ok.1 h
      obtain ⟨ys', hys, h⟩ := bind_eq_ok.1 h
      cases h
      exact .cons hy (mapM_eq_ok hys)

theorem mapM_isOk {f : α → Except ε β} : ∀ {xs : List α}, (∀ x ∈ xs, ∃ y, f x = .ok y) →
    ∃ ys, xs.mapM f = .ok ys
  | [], _ => ⟨[], List.mapM_nil⟩
  | x :: xs, h => by
      obtain ⟨⟨y, hy⟩, hxs⟩ := List.forall_mem_cons.1 h
      obtain ⟨ys, hys⟩ := mapM_isOk hxs
      rw [List.mapM_cons]
      exact ⟨y :: ys, bind_eq_ok.2 ⟨y, hy, bind_eq_ok.2 ⟨ys, hys, rfl⟩⟩⟩

theorem mapM_eq_map {f : α → Except ε β} {g : α → β} : ∀ {xs : List α},
    (∀ x ∈ xs, f x = .ok (g x)) → xs.mapM f = .ok (xs.map g)
  | [], _ => List.mapM_nil
  | x :: xs, h => by
      obtain ⟨hx, hxs⟩ := List.forall_mem_cons.1 h
      rw [List.mapM_cons, hx, mapM_eq_map hxs]
      rfl

/-- Steps that fail with nothing but `e` fail with it together. -/
theorem mapM_eq_error {f : α → Except ε β} {e : ε} : ∀ {xs : List α},
    (∀ x ∈ xs, (∃ y, f x = .ok y) ∨ f x = .error e) → (∃ x ∈ xs, f x = .error e) →
      xs.mapM f = .error e
  | [], _, h => by
      obtain ⟨x, hx, -⟩ := h
      cases hx
  | x :: xs, h, hfails => by
      obtain ⟨hx, hxs⟩ := List.forall_mem_cons.1 h
      rw [List.mapM_cons]
      rcases hx with ⟨y, hy⟩ | hx
      · have htail : ∃ x ∈ xs, f x = .error e := by
          obtain ⟨x', hx', he⟩ := hfails
          rcases List.mem_cons.1 hx' with rfl | hx'
          · rw [hy] at he
            cases he
          · exact ⟨x', hx', he⟩
        rw [hy, mapM_eq_error hxs htail]
        rfl
      · rw [hx]
        rfl

/-- A loop that throws the results away fails as the list of its steps does. -/
theorem forIn_eq_mapM {f : α → Except ε β} : ∀ xs : List α,
    (forIn xs PUnit.unit fun x _ => do
      let _ ← f x
      pure (ForInStep.yield PUnit.unit)) = (xs.mapM f).map fun _ => PUnit.unit
  | [] => rfl
  | x :: xs => by
      have ih := forIn_eq_mapM (f := f) xs
      rw [List.forIn_cons, List.mapM_cons]
      cases f x with
      | error e => rfl
      | ok y => exact ih.trans (by cases xs.mapM f <;> rfl)

theorem exists_of_mem_right {R : α → β → Prop} {xs : List α} {ys : List β}
    (h : List.Forall₂ R xs ys) {y : β} (hy : y ∈ ys) : ∃ x ∈ xs, R x y := by
  induction h with
  | nil => cases hy
  | cons hr _ ih =>
      rcases List.mem_cons.1 hy with rfl | hy
      · exact ⟨_, List.mem_cons_self, hr⟩
      · obtain ⟨x, hx, h⟩ := ih hy
        exact ⟨x, List.mem_cons_of_mem _ hx, h⟩

/-! ### Two runs -/

/-- The two fail with the same error, or both succeed, with results that `R` relates. -/
inductive Agree (R : α → β → Prop) : Except ε α → Except ε β → Prop
  | error (e : ε) : Agree R (.error e) (.error e)
  | ok {a : α} {b : β} (h : R a b) : Agree R (.ok a) (.ok b)

namespace Agree

variable {R : α → β → Prop} {S : α' → β' → Prop} {x : Except ε α} {y : Except ε β}

theorem refl {R : α → α → Prop} (h : ∀ a, R a a) : ∀ x : Except ε α, Agree R x x
  | .error e => .error e
  | .ok a => .ok (h a)

theorem bind {f : α → Except ε α'} {g : β → Except ε β'} (h : Agree R x y)
    (hf : ∀ a b, R a b → Agree S (f a) (g b)) : Agree S (x >>= f) (y >>= g) := by
  cases h with
  | error e => exact .error e
  | ok h => exact hf _ _ h

theorem exists_ok {a : α} (h : Agree R x y) (hx : x = .ok a) : ∃ b, y = .ok b ∧ R a b := by
  cases h with
  | error e => cases hx
  | ok h =>
      cases hx
      exact ⟨_, rfl, h⟩

theorem map {f : α → α'} {g : β → β'} (h : Agree R x y) (hf : ∀ a b, R a b → S (f a) (g b)) :
    Agree S (x.map f) (y.map g) := by
  cases h with
  | error e => exact .error e
  | ok h => exact .ok (hf _ _ h)

theorem mapError (f : ε → ε') (h : Agree R x y) : Agree R (x.mapError f) (y.mapError f) := by
  cases h with
  | error e => exact .error (f e)
  | ok h => exact .ok h

theorem mapM {f : α → Except ε α'} {g : β → Except ε β'} (hf : ∀ a b, R a b → Agree S (f a) (g b))
    {xs : List α} {ys : List β} (h : List.Forall₂ R xs ys) :
    Agree (List.Forall₂ S) (xs.mapM f) (ys.mapM g) := by
  induction h with
  | nil => exact .ok .nil
  | cons hr _ ih =>
      rw [List.mapM_cons, List.mapM_cons]
      refine (hf _ _ hr).bind fun a b hab => ?_
      exact ih.bind fun as bs habs => .ok (.cons hab habs)

end Agree

end PostSearch
