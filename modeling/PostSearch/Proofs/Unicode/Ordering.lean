import Mathlib
import PostSearch.Unicode.Normalization

/-! # Marks in order

Ordering a text leaves ordered texts as they are (`IsOrdered.order_eq`), and does not see whether a
mark stands before or behind marks of smaller classes (`order_move`). -/

namespace PostSearch.Unicode

variable {c d : Char} {s t u marks : List Char}

/-- No mark follows one of a greater class. -/
def IsOrdered (s : List Char) : Prop :=
  s.IsChain fun a b => combiningClass b = 0 ∨ combiningClass a ≤ combiningClass b

theorem isOrdered_cons :
    IsOrdered (c :: s) ↔
      (∀ d ∈ s.head?, combiningClass d = 0 ∨ combiningClass c ≤ combiningClass d) ∧
        IsOrdered s :=
  List.isChain_cons

theorem order_cons : order (c :: s) = orderInsert c (order s) :=
  rfl

theorem orderInsert_eq (h : IsOrdered (c :: s)) : orderInsert c s = c :: s := by
  cases s with
  | nil => rfl
  | cons d s =>
      have hd := (isOrdered_cons.1 h).1 d rfl
      rw [orderInsert, if_neg (by omega)]

theorem IsOrdered.order_eq (h : IsOrdered s) : order s = s := by
  induction s with
  | nil => rfl
  | cons c s ih => rw [order_cons, ih (isOrdered_cons.1 h).2, orderInsert_eq h]

theorem head?_orderInsert (h : d ∈ (orderInsert c s).head?) : d = c ∨ d ∈ s.head? := by
  cases s with
  | nil => exact Or.inl (Option.mem_some.1 h).symm
  | cons e s =>
      unfold orderInsert at h
      split at h
      · exact Or.inr h
      · exact Or.inl (Option.mem_some.1 h).symm

theorem IsOrdered.orderInsert (h : IsOrdered s) : IsOrdered (orderInsert c s) := by
  induction s with
  | nil => exact List.isChain_singleton c
  | cons d s ih =>
      obtain ⟨hhead, htail⟩ := isOrdered_cons.1 h
      unfold Unicode.orderInsert
      split
      · rename_i hmoved
        refine isOrdered_cons.2 ⟨fun e he => ?_, ih htail⟩
        rcases head?_orderInsert he with rfl | he
        · exact Or.inr (by omega)
        · exact hhead e he
      · rename_i hstays
        refine isOrdered_cons.2 ⟨fun e he => ?_, h⟩
        obtain rfl := Option.mem_some.1 he
        omega

theorem isOrdered_order (s : List Char) : IsOrdered (order s) := by
  induction s with
  | nil => exact List.isChain_nil
  | cons c s ih => exact ih.orderInsert

theorem orderInsert_perm : (orderInsert c s).Perm (c :: s) := by
  induction s with
  | nil => exact List.Perm.refl _
  | cons d s ih =>
      unfold orderInsert
      split
      · exact (ih.cons d).trans (List.Perm.swap c d s)
      · exact List.Perm.refl _

theorem order_perm (s : List Char) : (order s).Perm s := by
  induction s with
  | nil => exact List.Perm.refl _
  | cons c s ih => exact orderInsert_perm.trans (ih.cons c)

theorem order_append_congr (h : order t = order u) : order (s ++ t) = order (s ++ u) := by
  induction s with
  | nil => exact h
  | cons c s ih => rw [List.cons_append, List.cons_append, order_cons, order_cons, ih]

/-- Marks of different classes may be put in front of a text one after the other. -/
theorem orderInsert_comm (hmark : 0 < combiningClass d)
    (hlt : combiningClass d < combiningClass c) :
    orderInsert c (orderInsert d s) = orderInsert d (orderInsert c s) := by
  induction s with
  | nil =>
      simp only [orderInsert]
      rw [if_pos ⟨hmark, hlt⟩, if_neg (by omega)]
  | cons e s ih =>
      by_cases hd : 0 < combiningClass e ∧ combiningClass e < combiningClass d
      · rw [orderInsert, if_pos hd, orderInsert, if_pos (by omega), orderInsert, if_pos (by omega),
          orderInsert, if_pos hd, ih]
      · have hinsert : orderInsert d (e :: s) = d :: e :: s := by rw [orderInsert, if_neg hd]
        rw [hinsert, orderInsert, if_pos ⟨hmark, hlt⟩]
        by_cases hc : 0 < combiningClass e ∧ combiningClass e < combiningClass c
        · rw [orderInsert, if_pos hc, orderInsert, if_neg hd]
        · rw [orderInsert, if_neg hc, orderInsert, if_neg (by omega)]

/-- A mark may move behind marks of smaller classes. -/
theorem order_move (h : ∀ d ∈ marks, 0 < combiningClass d ∧ combiningClass d < combiningClass c) :
    order (c :: (marks ++ s)) = order (marks ++ c :: s) := by
  induction marks with
  | nil => rfl
  | cons d marks ih =>
      obtain ⟨hd, hmarks⟩ := List.forall_mem_cons.1 h
      rw [List.cons_append, List.cons_append, order_cons, order_cons,
        orderInsert_comm hd.1 hd.2, ← order_cons, ih hmarks, ← order_cons]

end PostSearch.Unicode
