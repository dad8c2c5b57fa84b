import Mathlib.Data.List.Basic
import Mathlib.Data.List.TakeWhile
import Mathlib.Tactic.Ring
import PostSearch.Text.Numeral

/-! # Numerals that are read

Numbers are read in many spellings. `IsNumeral` is the plain one, a sign and digits of ASCII, and
numerals of this form that are not too long are always read (`IsNumeral.readInt`). Numbers are
written in this form, so what is written is read back as the same number (`readInt_intDigits`).

A run of digits stands for less than the power of ten of its length; one more than it is less as
well, unless all digits are nines (`succ_readDigits_iff`). -/

namespace PostSearch.Numeral

open Unicode

/-- A decimal numeral, with or without a sign, of fewer digits than the limit. -/
structure IsNumeral (s sign digits : List Char) : Prop where
  eq : s = sign ++ digits
  sign_mem : sign ∈ [[], ['-'], ['+']]
  ne_nil : digits ≠ []
  length_lt : digits.length < digitLimit
  isDigit : ∀ c ∈ digits, c.isDigit = true

theorem isDigit_iff {c : Char} : c.isDigit = true ↔ 48 ≤ c.toNat ∧ c.toNat ≤ 57 := by
  simp only [Char.isDigit, Bool.and_eq_true, decide_eq_true_eq]
  rfl

theorem wellSeparated_of_not_mem : ∀ {s : List Char}, s ≠ [] → '_' ∉ s → wellSeparated s = true
  | [], h, _ => absurd rfl h
  | [c], _, h => by
      have hc : c ≠ '_' := (List.ne_and_not_mem_of_not_mem_cons h).1.symm
      simp [wellSeparated]
  | c :: d :: s, _, h => by
      obtain ⟨hc, hrest⟩ := List.ne_and_not_mem_of_not_mem_cons h
      have hd : d ≠ '_' := (List.ne_and_not_mem_of_not_mem_cons hrest).1.symm
      have ih := wellSeparated_of_not_mem (s := d :: s) (List.cons_ne_nil _ _) hrest
      rw [wellSeparated]
      · exact ih
      all_goals simp [hc.symm, hd]

theorem takeSign_eq {sign s : List Char} {c : Char} (hs : sign ∈ [[], ['-'], ['+']])
    (hplus : c ≠ '+') (hminus : c ≠ '-') :
    takeSign (sign ++ c :: s) = (decide (sign = ['-']), c :: s) := by
  simp only [List.mem_cons, List.not_mem_nil, or_false] at hs
  rcases hs with rfl | rfl | rfl
  · simp [takeSign, hplus, hminus]
  · rfl
  · rfl

theorem dropHexMark_eq {s : List Char} (h : ∀ c ∈ s, c ≠ 'x' ∧ c ≠ 'X') : dropHexMark s = s := by
  unfold dropHexMark
  split
  · rename_i x s
    obtain ⟨hsmall, hlarge⟩ := h x (List.mem_cons_of_mem _ List.mem_cons_self)
    rw [if_neg (not_or.2 ⟨hsmall, hlarge⟩)]
  · rfl

theorem digitOf?_bounds {radix : Nat} {c : Char} (h : (digitOf? radix c).isSome) :
    48 ≤ c.toNat ∧ c.toNat ≤ 122 := by
  have hrange : ∀ first last : Char, 48 ≤ first.toNat → last.toNat ≤ 122 → first ≤ c ∧ c ≤ last →
      48 ≤ c.toNat ∧ c.toNat ≤ 122 :=
    fun _ _ hfirst hlast hc => ⟨hfirst.trans hc.1, le_trans hc.2 hlast⟩
  by_contra hout
  have hdigit := mt (hrange '0' '9' (by decide) (by decide)) hout
  have hsmall := mt (hrange 'a' 'z' (by decide) (by decide)) hout
  have hlarge := mt (hrange 'A' 'Z' (by decide) (by decide)) hout
  simp only [digitOf?, if_neg hdigit, if_neg hsmall, if_neg hlarge, Nat.lt_irrefl, if_false] at h
  cases h

theorem ne_of_digitOf? {radix : Nat} (hradix : radix = 10 ∨ radix = 16) {c : Char}
    (h : (digitOf? radix c).isSome) : ∀ d ∈ ['+', '-', '_', 'x', 'X'], c ≠ d := by
  have hnone : ∀ d ∈ ['+', '-', '_', 'x', 'X'], digitOf? radix d = none := by
    rcases hradix with rfl | rfl <;> decide
  rintro d hmem rfl
  rw [hnone c hmem] at h
  cases h

/-- Visible characters of ASCII are read as they are. -/
theorem dropWhile_plainChar {s : List Char} (h : ∀ c ∈ s, 33 ≤ c.toNat ∧ c.toNat < 128) :
    (s.map plainChar).dropWhile isSpace = s := by
  have hplain : s.map plainChar = s :=
    (List.map_congr_left fun c hc => if_pos (h c hc).2).trans (List.map_id _)
  rw [hplain, List.dropWhile_eq_self_iff]
  intro hpos
  have hfirst := h _ (List.getElem_mem hpos)
  simp only [isSpace, Bool.or_eq_true, beq_iff_eq, Bool.and_eq_true, decide_eq_true_eq]
  rintro (e | e)
  · rw [e] at hfirst
    exact absurd hfirst.1 (by decide)
  · omega

/-- Digits of ASCII are read, with or without a sign, unless they are more than the limit on decimal
numerals. -/
theorem readInt_digits {radix : Nat} {sign digits : List Char} (hradix : radix = 10 ∨ radix = 16)
    (hs : sign ∈ [[], ['-'], ['+']]) (hne : digits ≠ [])
    (hl : radix = 10 → digits.length ≤ digitLimit)
    (hd : ∀ c ∈ digits, (digitOf? radix c).isSome) :
    readInt radix (sign ++ digits) =
      .ok (if sign = ['-'] then -(ofDigits radix (digits.filterMap (digitOf? radix)) : Int)
        else ofDigits radix (digits.filterMap (digitOf? radix))) := by
  have hmark : ∀ c ∈ digits, ∀ d ∈ ['+', '-', '_', 'x', 'X'], c ≠ d := fun c hc =>
    ne_of_digitOf? hradix (hd c hc)
  have hsigns : ∀ sign ∈ [[], ['-'], ['+']], ∀ c ∈ sign, 33 ≤ c.toNat ∧ c.toNat < 128 := by
    decide
  have hascii : ∀ c ∈ sign ++ digits, 33 ≤ c.toNat ∧ c.toNat < 128 := by
    intro c hc
    rcases List.mem_append.1 hc with hc | hc
    · exact hsigns sign hs c hc
    · have := digitOf?_bounds (hd c hc)
      omega
  have hsign : takeSign (sign ++ digits) = (decide (sign = ['-']), digits) := by
    obtain ⟨c, s, rfl⟩ := List.exists_cons_of_ne_nil hne
    have hc := hmark c List.mem_cons_self
    exact takeSign_eq hs (hc '+' (by simp)) (hc '-' (by simp))
  have hbody : (if radix = 16 then dropHexMark digits else digits) = digits := by
    rw [dropHexMark_eq fun c hc => ⟨hmark c hc 'x' (by simp), hmark c hc 'X' (by simp)⟩, ite_self]
  have hinner : ∀ c ∈ digits, isInner radix c = true := by
    intro c hc
    simp only [isInner, hd c hc, Bool.or_true]
  have hseparated : wellSeparated digits = true :=
    wellSeparated_of_not_mem hne fun h => hmark '_' h '_' (by simp) rfl
  have hshort : ¬ (radix = 10 ∧ digitLimit < (digits.filterMap (digitOf? radix)).length) := by
    rintro ⟨hten, hlong⟩
    have := hl hten
    have := List.length_filterMap_le (digitOf? radix) digits
    omega
  unfold Numeral.readInt
  rw [dropWhile_plainChar hascii, hsign]
  simp only [hbody, List.takeWhile_eq_self_iff.2 hinner, List.dropWhile_eq_nil_iff.2 hinner,
    hseparated, if_neg hshort, List.all_nil, Bool.not_true, Bool.false_eq_true, if_false,
    decide_eq_true_eq]

/-! ### Decimal numerals -/

theorem digitOf?_isDigit {c : Char} (h : c.isDigit = true) :
    digitOf? 10 c = some (c.toNat - 48) := by
  obtain ⟨h₁, h₂⟩ := isDigit_iff.1 h
  have hrange : '0' ≤ c ∧ c ≤ '9' := ⟨h₁, h₂⟩
  have hlt : c.toNat - 48 < 10 := by omega
  simp only [digitOf?, if_pos hrange, if_pos hlt]

/-- Both ways to add up digits of ASCII come to the same. -/
theorem ofDigits_isDigit {digits : List Char} (h : ∀ c ∈ digits, c.isDigit = true) :
    ofDigits 10 (digits.filterMap (digitOf? 10)) = Nat.ofDigitChars 10 digits 0 := by
  have hvalues : digits.filterMap (digitOf? 10) = digits.map fun c => c.toNat - 48 := by
    induction digits with
    | nil => rfl
    | cons c digits ih =>
        obtain ⟨hc, hdigits⟩ := List.forall_mem_cons.1 h
        rw [List.filterMap_cons_some (digitOf?_isDigit hc), ih hdigits, List.map_cons]
  have hstep : (fun (n : Nat) (c : Char) => n * 10 + (c.toNat - 48)) =
      fun n c => 10 * n + (c.toNat - '0'.toNat) := by
    funext n c
    rw [Nat.mul_comm]
    rfl
  rw [hvalues, ofDigits, List.foldl_map, hstep, Nat.ofDigitChars_eq_foldl]

theorem readInt_signed {sign digits : List Char} (hs : sign ∈ [[], ['-'], ['+']])
    (hne : digits ≠ []) (hl : digits.length ≤ digitLimit)
    (hd : ∀ c ∈ digits, c.isDigit = true) :
    readInt 10 (sign ++ digits) =
      .ok (if sign = ['-'] then -(Nat.ofDigitChars 10 digits 0 : Int)
        else Nat.ofDigitChars 10 digits 0) := by
  have hvalues : ∀ c ∈ digits, (digitOf? 10 c).isSome := fun c hc =>
    Option.isSome_of_eq_some (digitOf?_isDigit (hd c hc))
  rw [readInt_digits (Or.inl rfl) hs hne (fun _ => hl) hvalues, ofDigits_isDigit hd]

theorem IsNumeral.readInt {s sign digits : List Char} (h : IsNumeral s sign digits) :
    ∃ n, readInt 10 s = .ok n := by
  obtain ⟨rfl, hs, hne, hl, hd⟩ := h
  exact ⟨_, readInt_signed hs hne hl.le hd⟩

/-- Numerals that are written are read as the number. -/
theorem readInt_intDigits {n : Int} (h : n.natAbs < 10 ^ digitLimit) :
    readInt 10 (intDigits n) = .ok n := by
  have hne : natDigits n.natAbs ≠ [] := Nat.toDigits_ne_nil
  have hlength : (natDigits n.natAbs).length ≤ digitLimit :=
    (Nat.length_toDigits_le_iff (by decide) (by decide)).2 h
  have hdigits : ∀ c ∈ natDigits n.natAbs, c.isDigit = true := fun c hc =>
    Nat.isDigit_of_mem_toDigits (by decide) (by decide) hc
  have hvalue : Nat.ofDigitChars 10 (natDigits n.natAbs) 0 = n.natAbs :=
    Nat.ofDigitChars_ten_toDigits
  have hread : ∀ sign ∈ [[], ['-'], ['+']], readInt 10 (sign ++ natDigits n.natAbs) =
      .ok (if sign = ['-'] then -(n.natAbs : Int) else n.natAbs) := by
    intro sign hsign
    rw [readInt_signed hsign hne hlength hdigits, hvalue]
  unfold intDigits
  split
  · have habs : -(n.natAbs : Int) = n := by omega
    have hminus := hread ['-'] (by simp)
    rw [if_pos rfl, habs] at hminus
    exact hminus
  · have habs : (n.natAbs : Int) = n := by omega
    have hbare := hread [] (by simp)
    rw [if_neg (by decide), habs] at hbare
    exact hbare

/-- A numeral ends where no digit follows, so the number and what follows can be told apart. -/
theorem toDigits_append_inj {m n : Nat} {s t : List Char} (hs : ∀ c ∈ s.head?, c.isDigit = false)
    (ht : ∀ c ∈ t.head?, c.isDigit = false)
    (h : Nat.toDigits 10 m ++ s = Nat.toDigits 10 n ++ t) : m = n ∧ s = t := by
  have htake : ∀ k (u : List Char), (∀ c ∈ u.head?, c.isDigit = false) →
      (Nat.toDigits 10 k ++ u).takeWhile Char.isDigit = Nat.toDigits 10 k := by
    intro k u hu
    have hdigits : ∀ c ∈ Nat.toDigits 10 k, c.isDigit = true := fun c hc =>
      Nat.isDigit_of_mem_toDigits (by decide) (by decide) hc
    rw [List.takeWhile_append_of_pos hdigits]
    cases u with
    | nil => simp
    | cons c u => simp [hu c rfl]
  have hdigits : Nat.toDigits 10 m = Nat.toDigits 10 n := by
    rw [← htake m s hs, h, htake n t ht]
  have hvalue := congrArg (Nat.ofDigitChars 10 · 0) hdigits
  simp only [Nat.ofDigitChars_ten_toDigits] at hvalue
  rw [hdigits] at h
  exact ⟨hvalue, List.append_cancel_left h⟩

/-! ### Hexadecimal numerals -/

/-- The digits of a number are read as what they are written for. -/
theorem readInt_digitChars {ks : List Nat} (hne : ks ≠ []) (hk : ∀ k ∈ ks, k < 16) :
    readInt 16 (ks.map Nat.digitChar) = .ok (ofDigits 16 ks) := by
  have hdigit : ∀ k < 16, digitOf? 16 (Nat.digitChar k) = some k := by decide
  have hvalues : (ks.map Nat.digitChar).filterMap (digitOf? 16) = ks := by
    rw [List.filterMap_map, List.filterMap_eq_map_iff_forall_eq_some.2, List.map_id]
    exact fun k h => hdigit k (hk k h)
  have hsome : ∀ c ∈ ks.map Nat.digitChar, (digitOf? 16 c).isSome := by
    intro c hc
    obtain ⟨k, h, rfl⟩ := List.mem_map.1 hc
    exact Option.isSome_of_eq_some (hdigit k (hk k h))
  have hdecimal : 16 = 10 → (ks.map Nat.digitChar).length ≤ digitLimit := nofun
  have hunsigned : [] ∈ [[], ['-'], ['+']] := List.mem_cons_self
  have hread := readInt_digits (Or.inr rfl) hunsigned (List.map_eq_nil_iff.not.2 hne) hdecimal hsome
  rwa [List.nil_append, hvalues, if_neg (by decide)] at hread

/-! ### Numbers of digits -/

/-- After reading digits onto `n` less than one more than `n` has been moved up, and all of it if
the digits are nines. -/
theorem foldl_digits {ds : List Nat} (h : ∀ d ∈ ds, d < 10) (n : Nat) :
    ds.foldl (fun n d => n * 10 + d) n + 1 ≤ (n + 1) * 10 ^ ds.length ∧
      (ds.foldl (fun n d => n * 10 + d) n + 1 = (n + 1) * 10 ^ ds.length ↔ ∀ d ∈ ds, d = 9) := by
  induction ds generalizing n with
  | nil => simp
  | cons d ds ih =>
      obtain ⟨hd, hds⟩ := List.forall_mem_cons.1 h
      obtain ⟨hle, heq⟩ := ih hds (n * 10 + d)
      have hpow : 0 < 10 ^ ds.length := Nat.pow_pos (by decide)
      have hstep : (n * 10 + d + 1) * 10 ^ ds.length ≤ (n * 10 + 10) * 10 ^ ds.length :=
        Nat.mul_le_mul_right _ (by omega)
      have hmove : (n + 1) * 10 ^ (d :: ds).length = (n * 10 + 10) * 10 ^ ds.length := by
        rw [List.length_cons, pow_succ]
        ring
      rw [List.foldl_cons, hmove, List.forall_mem_cons]
      refine ⟨hle.trans hstep, fun h => ?_, fun ⟨hnine, hnines⟩ => ?_⟩
      · have hboth : (n * 10 + d + 1) * 10 ^ ds.length = (n * 10 + 10) * 10 ^ ds.length :=
          le_antisymm hstep (h ▸ hle)
        have hsame := Nat.eq_of_mul_eq_mul_right hpow hboth
        exact ⟨by omega, heq.1 (by rw [h, hboth])⟩
      · rw [heq.2 hnines, hnine]

theorem lt_of_mem_digits (s : List Char) : ∀ d ∈ s.filterMap digitValue?, d < 10 := by
  intro d hd
  obtain ⟨c, -, hc⟩ := List.mem_filterMap.1 hd
  exact digitValue?_lt hc

variable {s : List Char}

theorem readDigits_eq_ok {n : Nat} : readDigits s = .ok n ↔
    s.length ≤ digitLimit ∧ n = ofDigits 10 (s.filterMap digitValue?) := by
  unfold readDigits
  split
  · rename_i h
    constructor
    · intro h'
      cases h'
    · rintro ⟨h', -⟩
      omega
  · rename_i h
    constructor
    · intro h'
      cases h'
      exact ⟨by omega, rfl⟩
    · rintro ⟨-, rfl⟩
      rfl

theorem lt_of_readDigits {n : Nat} (h : readDigits s = .ok n) : n < 10 ^ s.length := by
  obtain ⟨-, rfl⟩ := readDigits_eq_ok.1 h
  have hle := (foldl_digits (lt_of_mem_digits s) 0).1
  have hlength : 10 ^ (s.filterMap digitValue?).length ≤ 10 ^ s.length :=
    Nat.pow_le_pow_right (by decide) (List.length_filterMap_le _ _)
  rw [zero_add, one_mul] at hle
  unfold ofDigits
  omega

/-- Only nines come one short of the next power of ten. -/
theorem succ_readDigits_iff {n : Nat} (hs : ∀ c ∈ s, isDigit c = true)
    (h : readDigits s = .ok n) : n + 1 = 10 ^ s.length ↔ ∀ c ∈ s, digitValue? c = some 9 := by
  obtain ⟨-, rfl⟩ := readDigits_eq_ok.1 h
  have hlength : (s.filterMap digitValue?).length = s.length :=
    List.filterMap_length_eq_length.2 hs
  have heq := (foldl_digits (lt_of_mem_digits s) 0).2
  rw [zero_add, one_mul, hlength] at heq
  unfold ofDigits
  rw [heq]
  constructor
  · intro h c hc
    obtain ⟨d, hd⟩ := Option.isSome_iff_exists.1 (hs c hc)
    rw [hd, h d (List.mem_filterMap.2 ⟨c, hc, hd⟩)]
  · intro h d hd
    obtain ⟨c, hc, hd⟩ := List.mem_filterMap.1 hd
    rw [h c hc] at hd
    exact (Option.some.inj hd).symm

theorem isTooLarge_iff {n : Int} : isTooLarge n = true ↔ 10 ^ digitLimit ≤ n.natAbs := by
  unfold isTooLarge natDigits
  rw [decide_eq_true_eq, ← not_le, Nat.length_toDigits_le_iff (by decide) (by decide), not_lt]

theorem showInt_eq_ok {n : Int} {t : List Char} :
    showInt n = .ok t ↔ n.natAbs < 10 ^ digitLimit ∧ t = intDigits n := by
  unfold showInt
  split
  · rename_i h
    rw [isTooLarge_iff] at h
    constructor
    · intro h'
      cases h'
    · rintro ⟨h', -⟩
      omega
  · rename_i h
    rw [isTooLarge_iff] at h
    constructor
    · intro h'
      cases h'
      exact ⟨by omega, rfl⟩
    · rintro ⟨-, rfl⟩
      rfl

end PostSearch.Numeral
