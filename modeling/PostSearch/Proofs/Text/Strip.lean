import Mathlib.Data.List.DropRight
import Mathlib.Data.List.TakeWhile
import PostSearch.Unicode.Blank

/-! # Stripped texts

Stripping takes away what it is asked to, at both ends and nothing else (`exists_stripWhere`). So
all other characters stay (`mem_stripWhere`), and nothing is left of a text without any
(`stripWhere_eq_nil`). It goes on up to a character that stays (`stripWhere_ends`), and so the part
of a text between two such characters is what is left of it (`stripWhere_between`). -/

namespace PostSearch.Unicode

variable {p : Char → Bool} {s : List Char} {c : Char}

theorem exists_stripWhere (p : Char → Bool) (s : List Char) :
    ∃ before after, s = before ++ stripWhere p s ++ after ∧ (∀ c ∈ before, p c = true) ∧
      ∀ c ∈ after, p c = true := by
  have hend : ∀ t : List Char, t = dropWhileEnd p t ++ (t.reverse.takeWhile p).reverse := by
    intro t
    rw [dropWhileEnd, ← List.reverse_append, List.takeWhile_append_dropWhile, List.reverse_reverse]
  refine ⟨s.takeWhile p, ((s.dropWhile p).reverse.takeWhile p).reverse, ?_, fun c hc => ?_,
    fun c hc => ?_⟩
  · rw [stripWhere, List.append_assoc, ← hend, List.takeWhile_append_dropWhile]
  · exact List.mem_takeWhile_imp hc
  · exact List.mem_takeWhile_imp (List.mem_reverse.1 hc)

theorem of_mem_stripWhere (h : c ∈ stripWhere p s) : c ∈ s := by
  obtain ⟨before, after, hs, -⟩ := exists_stripWhere p s
  rw [hs]
  exact List.mem_append_left _ (List.mem_append_right _ h)

theorem mem_stripWhere (hc : p c = false) : c ∈ stripWhere p s ↔ c ∈ s := by
  refine ⟨of_mem_stripWhere, fun h => ?_⟩
  obtain ⟨before, after, hs, hbefore, hafter⟩ := exists_stripWhere p s
  have hends : p c ≠ true := by
    rw [hc]
    exact Bool.false_ne_true
  rw [hs] at h
  rcases List.mem_append.1 h with h | h
  · exact (List.mem_append.1 h).resolve_left fun h => hends (hbefore c h)
  · exact absurd (hafter c h) hends

theorem stripWhere_eq_nil : stripWhere p s = [] ↔ ∀ c ∈ s, p c = true := by
  constructor
  · intro h c hc
    by_contra hp
    have := (mem_stripWhere (Bool.eq_false_iff.2 hp)).2 hc
    rw [h] at this
    cases this
  · intro h
    have hdrop : s.dropWhile p = [] := List.dropWhile_eq_nil_iff.2 h
    rw [stripWhere, hdrop]
    rfl

theorem exists_mem_stripWhere (h : stripWhere p s ≠ []) : ∃ c ∈ stripWhere p s, p c = false := by
  by_contra hall
  refine h (stripWhere_eq_nil.2 fun c hc => ?_)
  by_contra hp
  have hp := Bool.eq_false_iff.2 hp
  exact hall ⟨c, (mem_stripWhere hp).2 hc, hp⟩

theorem stripWhere_eq_self (h : ∀ c ∈ s, p c = false) : stripWhere p s = s := by
  have hnone : ∀ t : List Char, (∀ c ∈ t, p c = true) → (∀ c ∈ t, c ∈ s) → t = [] := by
    intro t ht hs
    refine List.eq_nil_iff_forall_not_mem.2 fun c hc => ?_
    have := ht c hc
    rw [h c (hs c hc)] at this
    cases this
  obtain ⟨before, after, hs, hbefore, hafter⟩ := exists_stripWhere p s
  have hfront : before = [] := hnone before hbefore fun c hc => by
    rw [hs]
    exact List.mem_append_left _ (List.mem_append_left _ hc)
  have hback : after = [] := hnone after hafter fun c hc => by
    rw [hs]
    exact List.mem_append_right _ hc
  rw [hfront, hback, List.append_nil] at hs
  exact hs.symm

/-! ### Where stripping stops -/

theorem head?_dropWhile (p : Char → Bool) (s : List Char) :
    ∀ c ∈ (s.dropWhile p).head?, p c = false := by
  intro c hc
  have := List.head?_dropWhile_not p s
  rw [hc] at this
  simpa using this

theorem stripWhere_ends (p : Char → Bool) (s : List Char) :
    (∀ c ∈ (stripWhere p s).head?, p c = false) ∧ ∀ c ∈ (stripWhere p s).getLast?, p c = false := by
  constructor
  · intro c hc
    obtain ⟨rest, hrest⟩ : stripWhere p s <+: s.dropWhile p := List.rdropWhile_prefix p _
    apply head?_dropWhile p s c
    rw [← hrest]
    exact List.mem_head?_append_of_mem_head? hc
  · intro c hc
    apply head?_dropWhile p (s.dropWhile p).reverse c
    rwa [stripWhere, dropWhileEnd, List.getLast?_reverse] at hc

theorem dropWhile_of_head? {w : List Char} (hne : w ≠ []) (h : ∀ c ∈ w.head?, p c = false)
    (after : List Char) : (w ++ after).dropWhile p = w ++ after := by
  obtain ⟨c, t, rfl⟩ := List.exists_cons_of_ne_nil hne
  exact List.dropWhile_cons_of_neg (by simp [h c rfl])

/-- A part that begins and ends with characters that stay is left of a text in which the others are
stripped. -/
theorem stripWhere_between {before w after : List Char} (hbefore : ∀ c ∈ before, p c = true)
    (hafter : ∀ c ∈ after, p c = true) (hne : w ≠ []) (hfirst : ∀ c ∈ w.head?, p c = false)
    (hlast : ∀ c ∈ w.getLast?, p c = false) : stripWhere p (before ++ w ++ after) = w := by
  have hafter' : ∀ c ∈ after.reverse, p c = true := fun c hc => hafter c (List.mem_reverse.1 hc)
  have hlast' : ∀ c ∈ w.reverse.head?, p c = false := by rwa [List.head?_reverse]
  have hback : w.reverse.dropWhile p = w.reverse := by
    have hself := dropWhile_of_head? (List.reverse_ne_nil_iff.2 hne) hlast' []
    rwa [List.append_nil] at hself
  rw [stripWhere, dropWhileEnd, List.append_assoc, List.dropWhile_append_of_pos hbefore,
    dropWhile_of_head? hne hfirst, List.reverse_append, List.dropWhile_append_of_pos hafter', hback,
    List.reverse_reverse]

end PostSearch.Unicode
