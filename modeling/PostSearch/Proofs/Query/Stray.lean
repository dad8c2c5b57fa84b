import PostSearch.Proofs.Query.Contents
import PostSearch.Proofs.Text.Split

/-! # Stray conditions

Opening the comment scope drops one condition at most: the first one of its operator, if a scope was
opened before it and it is not that of the comments (`forall_openCommentScope_iff`). Which one this
is can be told from the lexemes (`Lexeme.IsStray`), so what the comment scope leaves of a query is
what its other lexemes mean (`forall_applyCommentScope_iff`). -/

namespace PostSearch.Query

variable {n : Int} {o : Operator} {l : Lexeme} {ls : List Lexeme} {t : Token} {ts us : List Token}
  {P : Token → Prop}

/-! ### Stray tokens -/

/-- The token is the first condition of the operator, in a scope other than the comments. -/
def Token.IsStray (o : Operator) (before : List Token) (t : Token) : Prop :=
  (t.isCondition o = true ∧ ∀ b ∈ before, b.isCondition o = false) ∧
    ∃ s ∈ lastScope? before, s ≠ .comments

/-- What comes before the first element of a kind is settled. -/
theorem before_first_unique {α : Type} {p : α → Bool} {a a' : α} : ∀ {xs xs' ys ys' : List α},
    xs ++ a :: ys = xs' ++ a' :: ys' → (∀ x ∈ xs, p x = false) → (∀ x ∈ xs', p x = false) →
    p a = true → p a' = true → xs' = xs
  | [], [], _, _, _, _, _, _, _ => rfl
  | [], x' :: xs', _, _, h, _, hxs', ha, _ => by
      obtain ⟨rfl, -⟩ := List.cons.inj h
      rw [hxs' a List.mem_cons_self] at ha
      cases ha
  | x :: xs, [], _, _, h, hxs, _, _, ha' => by
      obtain ⟨rfl, -⟩ := List.cons.inj h
      rw [hxs x List.mem_cons_self] at ha'
      cases ha'
  | x :: xs, x' :: xs', _, _, h, hxs, hxs', ha, ha' => by
      obtain ⟨rfl, htail⟩ := List.cons.inj h
      obtain ⟨-, hxs⟩ := List.forall_mem_cons.1 hxs
      obtain ⟨-, hxs'⟩ := List.forall_mem_cons.1 hxs'
      exact congrArg (x :: ·) (before_first_unique htail hxs hxs' ha ha')

/-- All tokens but the first condition of the operator have the property, if it is dropped. -/
theorem forall_append_iff {before after : List Token} {first : Token}
    (hbefore : ∀ b ∈ before, b.isCondition o = false) (hfirst : first.IsStray o before) :
    (∀ t ∈ before ++ after, P t) ↔ ∀ before' t after',
      before ++ first :: after = before' ++ t :: after' → P t ∨ t.IsStray o before' := by
  constructor
  · intro hall before' t after' hts
    rcases List.append_eq_append_iff.1 hts with ⟨xs, rfl, hafter⟩ | ⟨xs, rfl, hafter⟩
    · cases xs with
      | nil =>
          cases hafter
          rw [List.append_nil]
          exact Or.inr hfirst
      | cons x xs =>
          cases hafter
          exact Or.inl (hall t (by simp))
    · cases xs with
      | nil =>
          cases hafter
          rw [List.append_nil] at hfirst
          exact Or.inr hfirst
      | cons x xs =>
          cases hafter
          exact Or.inl (hall t (by simp))
  · intro hall t ht
    rcases List.mem_append.1 ht with ht | ht
    · obtain ⟨xs, ys, rfl⟩ := List.append_of_mem ht
      refine (hall xs t (ys ++ first :: after) (by simp)).resolve_right fun hstray => ?_
      have := hstray.1.1
      rw [hbefore t ht] at this
      cases this
    · obtain ⟨xs, ys, rfl⟩ := List.append_of_mem ht
      refine (hall (before ++ first :: xs) t ys (by simp)).resolve_right fun hstray => ?_
      have := hstray.1.2 first (by simp)
      rw [hfirst.1.1] at this
      cases this

/-- Without stray tokens what is left are all tokens. -/
theorem forall_iff_of_not_isStray
    (hstray : ∀ before t after, ts = before ++ t :: after → ¬ t.IsStray o before) :
    (∀ t ∈ ts, P t) ↔ ∀ before t after, ts = before ++ t :: after → P t ∨ t.IsStray o before := by
  constructor
  · rintro hall before t after rfl
    exact Or.inl (hall t (List.mem_append_right _ List.mem_cons_self))
  · intro hall t ht
    obtain ⟨before, after, hts⟩ := List.append_of_mem ht
    exact (hall before t after hts).resolve_right (hstray before t after hts)

/-- All tokens but a stray one are left. -/
theorem forall_openCommentScope_iff (hstart : P (.scopeStart .comments)) :
    (∀ t ∈ openCommentScope o ts, P t) ↔
      ∀ before t after, ts = before ++ t :: after → P t ∨ t.IsStray o before := by
  rcases openCommentScope_cases o ts with ⟨hnone, h⟩ | ⟨before, first, after, rfl, hbefore, ht, h⟩
  · rw [h]
    refine forall_iff_of_not_isStray fun before t after hts hstray => ?_
    have := hnone t (hts ▸ List.mem_append_right _ List.mem_cons_self)
    rw [hstray.1.1] at this
    cases this
  · have hscope : ∀ before' t after', before ++ first :: after = before' ++ t :: after' →
        t.IsStray o before' → ∃ s ∈ lastScope? before, s ≠ .comments := by
      intro before' t after' hts hstray
      rw [← before_first_unique hts hbefore hstray.1.2 ht hstray.1.1]
      exact hstray.2
    rcases h with ⟨hlast, h⟩ | ⟨hlast, h⟩ | ⟨s, hlast, hs, h⟩
    · rw [h, List.forall_mem_cons, and_iff_right hstart]
      refine forall_iff_of_not_isStray fun before' t after' hts hstray => ?_
      obtain ⟨s, hs, -⟩ := hscope _ _ _ hts hstray
      rw [hlast] at hs
      cases hs
    · rw [h]
      refine forall_iff_of_not_isStray fun before' t after' hts hstray => ?_
      obtain ⟨s, hs, hne⟩ := hscope _ _ _ hts hstray
      rw [hlast] at hs
      cases hs
      exact hne rfl
    · rw [h]
      exact forall_append_iff hbefore ⟨⟨ht, hbefore⟩, s, hlast, hs⟩

/-! ### Stray lexemes -/

/-- The lexeme is a condition on those who like comments. -/
def Lexeme.IsCommentLiked : Lexeme → Prop
  | .term _ (some name) _ => spelled? name listSpellings = some .commentLikedBy
  | _ => False

/-- The scope of the last lexeme that opens one. -/
def lastOpened? (ls : List Lexeme) : Option Scope :=
  ls.reverse.findSome? fun l => openedScope? l.text

/-- The lexeme is the first condition on those who like comments, in another scope. -/
def Lexeme.IsStray (before : List Lexeme) (l : Lexeme) : Prop :=
  (l.IsCommentLiked ∧ ∀ b ∈ before, ¬ b.IsCommentLiked) ∧ ∃ s ∈ lastOpened? before, s ≠ .comments

theorem openedScope?_listed {excluded : Bool} {name : List Char} {body : Body}
    (h : spelled? name listSpellings = some o) :
    openedScope? (Lexeme.term excluded (some name) body).text = none := by
  have hkeys : ∀ p ∈ scopeSpellings, ':' ∉ p.1.toList ∧ p.1.toList.head? ≠ some '-' := by decide
  rw [Option.eq_none_iff_forall_ne_some]
  intro scope hscope
  unfold openedScope? at hscope
  split at hscope
  · have hkey := hkeys _ (mem_of_spelled? hscope)
    rw [String.toList_ofList] at hkey
    by_cases hbody : body.text = []
    · have htext : (Lexeme.term excluded (some name) body).text.dropLast =
          (if excluded then ['-'] else []) ++ name := by
        rw [Lexeme.text, hbody, List.append_nil, Option.elim_some, ← List.append_assoc,
          List.dropLast_concat]
      rw [htext] at hkey hscope
      cases excluded with
      | false =>
          have hnone : spelled? name listSpellings = none := spelled?_scope hscope
          rw [h] at hnone
          cases hnone
      | true => exact hkey.2 rfl
    · refine hkey.1 (Text.mem_dropFinalNewline ?_ (by decide))
      rw [Lexeme.text, List.dropLast_append_of_ne_nil hbody]
      simp
  · cases hscope

theorem tokens_of_isCommentLiked (h : l.IsCommentLiked) (hl : l.tokens n = .ok us) :
    ∃ c, us = [.condition c] ∧ c.operator = .commentLikedBy := by
  match l, h with
  | .term excluded (some name) body, h =>
      have hlist : spelled? name listSpellings = some .commentLikedBy := h
      simp only [Lexeme.tokens, openedScope?_listed hlist, namedTokens, hlist] at hl
      cases hl
      exact ⟨_, rfl, rfl⟩

theorem isCommentLiked_of_tokens (hl : l.tokens n = .ok us) (ht : t ∈ us)
    (h : t.isCondition .commentLikedBy = true) : l.IsCommentLiked := by
  have hdate : ∀ p ∈ dateSpellings, p.2 ≠ .commentLikedBy := by decide
  have hfile : ∀ p ∈ fileSpellings, p.2 ≠ .commentLikedBy := by decide
  have hcounter : ∀ p ∈ counterSpellings, p.2 ≠ .commentLikedBy := by decide
  obtain ⟨c, rfl, ho⟩ := isCondition_iff.1 h
  rcases token_cases hl ht with (e | e | ⟨g, e⟩ | ⟨s, g, e⟩) | ⟨s, e, -⟩ | ⟨c', e, hnames⟩
  all_goals cases e
  rw [ho] at hnames
  match l, hnames with
  | .term _ (some name) _, hnames =>
      rcases hnames with hs | hs | hs | hs
      · exact hs
      · exact absurd rfl (hdate _ (mem_of_spelled? hs))
      · exact absurd rfl (hfile _ (mem_of_spelled? hs))
      · exact absurd rfl (hcounter _ (mem_of_spelled? hs))

theorem lastScope?_tokens (hl : l.tokens n = .ok us) : lastScope? us = openedScope? l.text := by
  cases h : openedScope? l.text with
  | none =>
      refine List.findSome?_eq_none_iff.2 fun t ht => ?_
      cases t with
      | scopeStart s =>
          rcases token_cases hl (List.mem_reverse.1 ht) with
            (e | e | ⟨g, e⟩ | ⟨s', g, e⟩) | ⟨s', e, hs⟩ | ⟨c, e, -⟩ <;> cases e
          rw [h] at hs
          cases hs
      | _ => rfl
  | some s =>
      cases l with
      | pipe | plus => cases h
      | term excluded name body =>
          simp only [Lexeme.tokens, h] at hl
          cases hl
          rfl

theorem lastScope?_lexemesTokens (h : lexemesTokens n ls = .ok us) :
    lastScope? us = lastOpened? ls := by
  induction ls generalizing us with
  | nil =>
      cases h
      rfl
  | cons l ls ih =>
      obtain ⟨ws, hws, h⟩ := bind_eq_ok.1 h
      obtain ⟨vs, hvs, h⟩ := bind_eq_ok.1 h
      cases h
      have hcons : lastOpened? (l :: ls) = (lastOpened? ls).or (openedScope? l.text) := by
        unfold lastOpened?
        rw [List.reverse_cons, List.findSome?_append, List.findSome?_singleton]
      have happend : lastScope? (ws ++ vs) = (lastScope? vs).or (lastScope? ws) := by
        unfold lastScope?
        rw [List.reverse_append, List.findSome?_append]
      rw [happend, hcons, ih hvs, lastScope?_tokens hws]

/-! ### What the comment scope leaves -/

theorem exists_lexeme_of_append : ∀ {ls : List Lexeme} {before after : List Token},
    lexemesTokens n ls = .ok (before ++ t :: after) → ∃ ls' l ls'' us xs ys, ls = ls' ++ l :: ls'' ∧
      lexemesTokens n ls' = .ok us ∧ l.tokens n = .ok (xs ++ t :: ys) ∧ before = us ++ xs
  | [], before, after, h => by
      have := congrArg List.length (Except.ok.inj h)
      simp at this
  | l :: ls, before, after, h => by
      obtain ⟨ws, hws, h⟩ := bind_eq_ok.1 h
      obtain ⟨vs, hvs, h⟩ := bind_eq_ok.1 h
      have hlater : ∀ xs, before = ws ++ xs → vs = xs ++ t :: after →
          ∃ ls' l' ls'' us xs ys, l :: ls = ls' ++ l' :: ls'' ∧ lexemesTokens n ls' = .ok us ∧
            l'.tokens n = .ok (xs ++ t :: ys) ∧ before = us ++ xs := by
        rintro xs rfl rfl
        obtain ⟨ls', l', ls'', us, xs, ys, rfl, hus, hl', rfl⟩ := exists_lexeme_of_append hvs
        refine ⟨l :: ls', l', ls'', ws ++ us, xs, ys, rfl, ?_, hl', (List.append_assoc _ _ _).symm⟩
        exact bind_eq_ok.2 ⟨ws, hws, bind_eq_ok.2 ⟨us, hus, rfl⟩⟩
      rcases List.append_eq_append_iff.1 (Except.ok.inj h) with ⟨xs, hbefore, hxs⟩ | ⟨xs, rfl, hxs⟩
      · exact hlater xs hbefore hxs
      · cases xs with
        | nil => exact hlater [] (by simp) hxs.symm
        | cons x xs =>
            cases hxs
            exact ⟨[], l, ls, [], before, xs, rfl, rfl, hws, rfl⟩

theorem areOther_iff (h : lexemesTokens n ls = .ok us) :
    (∀ t ∈ us, t.isCondition .commentLikedBy = false) ↔ ∀ l ∈ ls, ¬ l.IsCommentLiked := by
  constructor
  · intro hnone l hl hliked
    obtain ⟨vs, hvs, hmem⟩ := exists_tokens_of_mem h hl
    obtain ⟨c, rfl, ho⟩ := tokens_of_isCommentLiked hliked hvs
    have := hnone _ (hmem _ List.mem_cons_self)
    rw [isCondition_iff.2 ⟨c, rfl, ho⟩] at this
    cases this
  · intro hnone t ht
    obtain ⟨l, hl, vs, hvs, ht⟩ := mem_lexemesTokens h ht
    exact Bool.eq_false_iff.2 fun hcondition =>
      hnone l hl (isCommentLiked_of_tokens hvs ht hcondition)

theorem isStray_iff {us xs ys : List Token} (h : lexemesTokens n ls = .ok us)
    (hl : l.tokens n = .ok (xs ++ t :: ys)) :
    t.IsStray .commentLikedBy (us ++ xs) ↔ l.IsStray ls := by
  have hfirst : l.IsCommentLiked → xs = [] ∧ t.isCondition .commentLikedBy = true := by
    intro hliked
    obtain ⟨c, hc, ho⟩ := tokens_of_isCommentLiked hliked hl
    obtain ⟨rfl, rfl, -⟩ : xs = [] ∧ t = .condition c ∧ ys = [] := by
      cases xs <;> simp_all
    exact ⟨rfl, isCondition_iff.2 ⟨c, rfl, ho⟩⟩
  constructor
  · rintro ⟨⟨hcondition, hbefore⟩, hscope⟩
    have hliked := isCommentLiked_of_tokens hl (by simp) hcondition
    obtain ⟨rfl, -⟩ := hfirst hliked
    rw [List.append_nil] at hbefore hscope
    rw [lastScope?_lexemesTokens h] at hscope
    exact ⟨⟨hliked, (areOther_iff h).1 hbefore⟩, hscope⟩
  · rintro ⟨⟨hliked, hbefore⟩, hscope⟩
    obtain ⟨rfl, hcondition⟩ := hfirst hliked
    rw [← lastScope?_lexemesTokens h] at hscope
    rw [List.append_nil]
    exact ⟨⟨hcondition, (areOther_iff h).2 hbefore⟩, hscope⟩

/-- The comment scope leaves the tokens of all lexemes but a stray one. What it drops of the
conditions on the likes of comments is left out of account. -/
theorem forall_applyCommentScope_iff (h : lexemesTokens n ls = .ok us)
    (hstart : P (.scopeStart .comments))
    (hcount : ∀ t ∈ us, t.isCondition .commentLikeCount = true → P t) :
    (∀ t ∈ applyCommentScope us, P t) ↔ ∀ before l after, ls = before ++ l :: after →
      (∀ ws, l.tokens n = .ok ws → ∀ t ∈ ws, P t) ∨ l.IsStray before := by
  have hopen : (∀ t ∈ applyCommentScope us, P t) ↔
      ∀ t ∈ openCommentScope .commentLikedBy us, P t := by
    change (∀ t ∈ openCommentScope .commentLikeCount (openCommentScope .commentLikedBy us), P t) ↔ _
    rw [forall_openCommentScope_iff hstart]
    constructor
    · intro hall t ht
      obtain ⟨before, after, hts⟩ := List.append_of_mem ht
      refine (hall before t after hts).elim id fun hstray => ?_
      rcases mem_openCommentScope ht with rfl | ht
      · exact hstart
      · exact hcount t ht hstray.1.1
    · intro hall before t after hts
      exact Or.inl (hall t (hts ▸ List.mem_append_right _ List.mem_cons_self))
  rw [hopen, forall_openCommentScope_iff hstart]
  constructor
  · rintro hall before l after rfl
    obtain ⟨bs, vs, hbs, hvs, rfl⟩ := lexemesTokens_append_eq_ok.1 h
    obtain ⟨ws, hws, hvs⟩ := bind_eq_ok.1 hvs
    obtain ⟨as, -, hvs⟩ := bind_eq_ok.1 hvs
    cases hvs
    by_cases hstray : l.IsStray before
    · exact Or.inr hstray
    · refine Or.inl fun ws' hws' t ht => ?_
      cases hws.symm.trans hws'
      obtain ⟨xs, ys, rfl⟩ := List.append_of_mem ht
      refine (hall (bs ++ xs) t (ys ++ as) (by simp)).resolve_right fun ht => hstray ?_
      exact (isStray_iff hbs hws).1 ht
  · rintro hall before t after rfl
    obtain ⟨ls', l, ls'', bs, xs, ys, hls, hbs, hl, rfl⟩ := exists_lexeme_of_append h
    rcases hall ls' l ls'' hls with hl' | hstray
    · exact Or.inl (hl' _ hl t (by simp))
    · exact Or.inr ((isStray_iff hbs hl).2 hstray)

end PostSearch.Query
