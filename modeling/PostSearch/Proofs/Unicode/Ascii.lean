import PostSearch.Query.Parse

/-! # ASCII texts

The tables of the Unicode data begin above ASCII. So a text of ASCII characters is its own
compatibility form (`compatibilityForm_ascii`), normalising it changes nothing but its capitals
(`normalize_map_toLower`), and queries without capitals are searched as they are
(`normalize_ascii`). -/

namespace PostSearch.Unicode

def IsAscii (s : List Char) : Prop :=
  ∀ c ∈ s, c.toNat < 128

instance (s : List Char) : Decidable (IsAscii s) :=
  inferInstanceAs (Decidable (∀ c ∈ s, c.toNat < 128))

variable {c : Char} {s : List Char}

theorem IsAscii.head (h : IsAscii (c :: s)) : c.toNat < 128 :=
  h c List.mem_cons_self

theorem IsAscii.tail (h : IsAscii (c :: s)) : IsAscii s :=
  fun d hd => h d (List.mem_cons_of_mem _ hd)

/-- What the first numbers are checked for holds of all ASCII characters. -/
theorem forall_ascii {p : Char → Prop} (h : ∀ n < 128, p (Char.ofNat n)) :
    ∀ c : Char, c.toNat < 128 → p c := by
  intro c hc
  rw [← Char.ofNat_toNat c]
  exact h c.toNat hc

/-! ### Compatibility form -/

theorem decompose_ascii (h : IsAscii s) : decompose s = s := by
  induction s with
  | nil => rfl
  | cons c s ih =>
      have hc : decomposeChar c = [c] := by
        unfold decomposeChar
        rw [decomposition?_ascii _ h.head]
      rw [decompose, List.flatMap_cons, hc]
      exact congrArg (c :: ·) (ih h.tail)

theorem orderInsert_ascii (h : IsAscii s) : orderInsert c s = c :: s := by
  cases s with
  | nil => rfl
  | cons d s =>
      have hd : combiningClass d = 0 := combiningClass_eq_zero (by have := h.head; omega)
      rw [orderInsert, if_neg (by omega)]

theorem order_ascii (h : IsAscii s) : order s = s := by
  induction s with
  | nil => rfl
  | cons c s ih =>
      rw [order, List.foldr_cons]
      change orderInsert c (order s) = c :: s
      rw [ih h.tail, orderInsert_ascii h.tail]

theorem composite?_ascii {first : Char} (h : c.toNat < 128) : composite? first c = none := by
  have hsyllable : hangulSyllable? first.toNat c.toNat = none := by
    unfold hangulSyllable? vowelBase tailBase
    rw [if_neg (by omega), if_neg (by omega)]
  have htable : compositeIn first.toNat c.toNat composites = none := by
    unfold composites compositeIn
    exact if_pos (by dsimp only; omega)
  unfold composite?
  rw [hsyllable, htable]
  rfl

theorem composeAfter_ascii {starter : Char} (h : IsAscii s) :
    composeAfter starter [] s = starter :: s := by
  induction s generalizing starter with
  | nil => rfl
  | cons c s ih =>
      have hc : combiningClass c = 0 := combiningClass_eq_zero (by have := h.head; omega)
      unfold composeAfter
      simp only [Bool.false_eq_true, if_false, composite?_ascii h.head, hc, if_true,
        List.reverse_nil, ih h.tail]
      rfl

theorem compatibilityForm_ascii (h : IsAscii s) : compatibilityForm s = s := by
  rw [compatibilityForm, decompose_ascii h, order_ascii h]
  cases s with
  | nil => rfl
  | cons c s => exact composeAfter_ascii h.tail

/-! ### Lower case -/

/-- No character of ASCII is a sigma. -/
theorem lowercaseAfter_ascii {before : List Char} (h : IsAscii s) :
    lowercaseAfter before s = s.map Char.toLower := by
  induction s generalizing before with
  | nil => rfl
  | cons c s ih =>
      have hc := lowercaseChar_ascii _ h.head
      rw [Char.ofNat_toNat] at hc
      have hsigma : ¬ (c.toNat = 0x03A3 ∧ isFinalSigma before s = true) := by
        rintro ⟨e, -⟩
        have := h.head
        omega
      rw [lowercaseAfter, if_neg hsigma, hc, ih h.tail]
      rfl

/-- Case is all that is changed about ASCII. -/
theorem normalize_map_toLower (h : IsAscii s) : Query.normalize s = s.map Char.toLower := by
  rw [Query.normalize, compatibilityForm_ascii h, lowercase, lowercaseAfter_ascii h]

theorem normalize_ascii (h : ∀ c ∈ s, c.toNat < 128 ∧ c.isUpper = false) :
    Query.normalize s = s := by
  have hlower : ∀ c : Char, c.toNat < 128 → c.isUpper = false → c.toLower = c :=
    forall_ascii (by decide)
  have hself : ∀ c ∈ s, c.toLower = c := fun c hc => hlower c (h c hc).1 (h c hc).2
  rw [normalize_map_toLower fun c hc => (h c hc).1, List.map_congr_left hself, List.map_id']

end PostSearch.Unicode
