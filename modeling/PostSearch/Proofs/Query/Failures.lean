import PostSearch.Proofs.Interval.Counts
import PostSearch.Proofs.Query.Meanings
import PostSearch.Proofs.Query.Scanning
import PostSearch.Proofs.Text.Split
import PostSearch.Proofs.Unicode.Ascii
import PostSearch.Query.Parse

/-! # When queries cannot be read

Scanning takes every text for something, and what makes no sense for plain text or for nothing. Only
numerals stop it: a query is refused exactly when one of its lexemes is a counter with a bound that
has no numeral within the limit (`parse_isOk`). -/

namespace PostSearch.Query

open PostSearch.Interval Numeral Unicode

variable {minStem : Int} {l : Lexeme} {w : List Char} {st : Stated}

/-- The lexeme is a counter with a bound that has no numeral. -/
def Lexeme.Overflows : Lexeme → Prop
  | .term _ (some name) (.word w) =>
    (spelled? name counterSpellings).isSome ∧ ∃ st, Spells IsRun w st ∧ st.IsOverlong
  | _ => False

/-- The lexeme is a combinator, opens a scope, or has a name and a body that the name goes with. -/
def Lexeme.MakesSense (minStem : Int) : Lexeme → Prop
  | .pipe | .plus => True
  | .term excluded name body =>
    (openedScope? (Lexeme.term excluded name body).text).isSome ∨ ∃ n ∈ name,
      (spelled? n listSpellings).isSome ∨ (spelled? n fileSpellings).isSome ∨
      ((spelled? n scopeSpellings).isSome ∧
        (body.phrase?.isSome ∨ words minStem body.plainWord ≠ [])) ∨
      ((spelled? n dateSpellings).isSome ∧ (dayTexts? body.plainWord).isSome) ∨
      ((spelled? n counterSpellings).isSome ∧ ∃ b, countTexts? body.plainWord = .ok (some b))

/-! ### Counters -/

theorem spelled?_counter {name : List Char} {o : Operator}
    (h : spelled? name counterSpellings = some o) :
    spelled? name listSpellings = none ∧ spelled? name scopeSpellings = none ∧
      spelled? name dateSpellings = none ∧ spelled? name fileSpellings = none := by
  have hkeys : ∀ p ∈ counterSpellings, listSpellings.lookup p.1 = none ∧
      scopeSpellings.lookup p.1 = none ∧ dateSpellings.lookup p.1 = none ∧
      fileSpellings.lookup p.1 = none := by
    decide
  exact hkeys _ (mem_of_spelled? h)

theorem dropFinalNewline_unbroken (h : IsUnbroken w) : Text.dropFinalNewline w = w :=
  Text.dropFinalNewline_of_not_mem fun hmem => absurd (h _ hmem) (by decide)

theorem mem_of_spells (h : Spells IsRun w st) {c : Char} (hc : c ∈ w) :
    isDigit c = true ∨ c ∈ ['=', '>', '<', '.', '*'] := by
  have hsigns : ∀ k : Comparison, ∀ sign ∈ k.spellings, ∀ c ∈ sign,
      c ∈ ['=', '>', '<', '.', '*'] := by
    intro k
    cases k <;> decide
  have hside : ∀ side : Option (List Char), (∀ a ∈ side, IsRun a) → c ∈ sideText side →
      isDigit c = true ∨ c ∈ ['=', '>', '<', '.', '*'] := by
    intro side hrun hmem
    cases side with
    | none => exact Or.inr (List.mem_singleton.1 hmem ▸ by simp)
    | some a => exact Or.inl ((hrun a rfl).2 c hmem)
  cases h with
  | comparison hs hv =>
      rcases List.mem_append.1 hc with hc | hc
      · exact Or.inr (hsigns _ _ hs c hc)
      · exact Or.inl (hv.2 c hc)
  | range hl hu _ =>
      rcases List.mem_append.1 hc with hc | hc
      · exact hside _ hl hc
      · rcases List.mem_cons.1 hc with rfl | hc
        · exact Or.inr (by simp)
        rcases List.mem_cons.1 hc with rfl | hc
        · exact Or.inr (by simp)
        · exact hside _ hu hc

theorem length_of_isOverlong (h : Spells IsRun w st) (hlong : st.IsOverlong) :
    digitLimit ≤ w.length := by
  cases h with
  | comparison hs hv =>
      rw [List.length_append]
      rcases hlong with hlong | ⟨-, hlong, -⟩ <;> omega
  | range hl hu _ =>
      obtain ⟨a, hside, hlong⟩ := hlong
      simp only [List.length_append, List.length_cons]
      rcases hside with rfl | rfl <;> simp only [sideText, Option.getD_some] <;> omega

/-! ### Lexemes -/

/-- A lexeme whose word spells an interval is no other kind of lexeme. -/
theorem plain_of_overflows (excluded : Bool) (name : List Char) (h : Spells IsRun w st)
    (hlong : st.IsOverlong) :
    openedScope? (Lexeme.term excluded (some name) (.word w)).text = none ∧
      (Body.word w).plainWord = w := by
  have hlength := length_of_isOverlong h hlong
  have hlimit : 36 < digitLimit := by decide
  constructor
  · have hne : (Body.word w).text ≠ [] := by
      rintro hnil
      obtain rfl : w = [] := hnil
      simp at hlength
      omega
    refine openedScope?_of_last ?_
    rw [text_getLast? _ hne]
    intro hlast
    have hcolon : isDigit ':' = false := by decide +kernel
    rcases mem_of_spells h (List.mem_of_getLast? hlast) with hdigit | hmark
    · rw [hcolon] at hdigit
      cases hdigit
    · exact absurd hmark (by decide)
  · -- The word is longer than an id.
    unfold Body.plainWord
    refine if_neg fun huuid => ?_
    have := (Uuid.isCanonical_iff.1 huuid).1
    omega

theorem namedTokens_isOk {excluded : Bool} {name raw : List Char} {body : Body}
    (h : (spelled? name counterSpellings).isSome → ∃ r, countTexts? body.plainWord = .ok r) :
    ∃ ts, namedTokens minStem excluded name body raw = .ok ts := by
  unfold namedTokens
  split
  · exact ⟨_, rfl⟩
  split
  · exact ⟨_, rfl⟩
  split
  · exact ⟨_, rfl⟩
  split
  · exact ⟨_, rfl⟩
  split
  · rename_i o hcounter
    obtain ⟨r, hr⟩ := h (by rw [hcounter]; rfl)
    rw [hr]
    exact ⟨_, rfl⟩
  · exact ⟨_, rfl⟩

/-- A lexeme has tokens unless it is a counter with a bound that has no numeral. -/
theorem Lexeme.tokens_isOk (hl : l.IsUnbroken) :
    (∃ ts, l.tokens minStem = .ok ts) ↔ ¬ l.Overflows := by
  constructor
  · rintro ⟨ts, hts⟩ hover
    unfold Overflows at hover
    split at hover
    · rename_i excluded name w
      obtain ⟨hname, st, hspells, hlong⟩ := hover
      obtain ⟨o, ho⟩ := Option.isSome_iff_exists.1 hname
      obtain ⟨hlist, hscope, hdate, hfile⟩ := spelled?_counter ho
      obtain ⟨hopened, hplain⟩ := plain_of_overflows excluded name hspells hlong
      cases means_of_tokens hts with
      | opened h => rw [hopened] at h; cases h
      | listed h => rw [hlist] at h; cases h
      | inside h => rw [hscope] at h; cases h
      | dated h => rw [hdate] at h; cases h
      | attached h => rw [hfile] at h; cases h
      | counted _ hbounds =>
          rw [hplain] at hbounds
          rw [← dropFinalNewline_unbroken hl] at hspells
          exact countTexts?_isOk.1 ⟨_, hbounds⟩ st hspells hlong
      | unknown _ _ _ _ h => rw [ho] at h; cases h
    · exact hover
  · intro hover
    cases l with
    | pipe | plus => exact ⟨_, rfl⟩
    | term excluded name body =>
        simp only [tokens]
        split
        · exact ⟨_, rfl⟩
        cases name with
        | none => exact ⟨_, rfl⟩
        | some name =>
            refine namedTokens_isOk fun hname => ?_
            have hnil : ∃ r, countTexts? [] = .ok r := ⟨none, rfl⟩
            cases body with
            | quoted inner => exact hnil
            | word w =>
                by_cases huuid : Uuid.isCanonical w = true
                · have hplain : (Body.word w).plainWord = [] := if_pos huuid
                  rwa [hplain]
                · have hplain : (Body.word w).plainWord = w := if_neg huuid
                  rw [hplain]
                  refine countTexts?_isOk.2 fun st hspells hlong => ?_
                  rw [dropFinalNewline_unbroken hl] at hspells
                  exact hover ⟨hname, st, hspells, hlong⟩

/-- What makes no sense is taken for plain text, or for nothing. -/
theorem isText_of_not_makesSense {ts : List Token} (h : l.tokens minStem = .ok ts)
    (hsense : ¬ l.MakesSense minStem) : IsText ts := by
  cases means_of_tokens h with
  | pipe | plus => exact absurd trivial hsense
  | bare => exact isText_bareTokens _ _ _
  | unknown => exact isText_wordTokens _ _
  | opened hs =>
      cases l with
      | pipe | plus => exact absurd trivial hsense
      | term => exact absurd (Or.inl (by rw [hs]; rfl)) hsense
  | @listed _ name _ _ hs =>
      exact absurd (Or.inr ⟨name, rfl, Or.inl (by rw [hs]; rfl)⟩) hsense
  | @attached _ name _ _ hs =>
      exact absurd (Or.inr ⟨name, rfl, Or.inr (Or.inl (by rw [hs]; rfl))⟩) hsense
  | @inside _ name body _ hs =>
      refine Or.inl (by_contra fun hne => hsense (Or.inr ⟨name, rfl, ?_⟩))
      refine Or.inr (Or.inr (Or.inl ⟨by rw [hs]; rfl, ?_⟩))
      unfold scopeTokens at hne
      cases hphrase : body.phrase? with
      | some phrase => exact Or.inl rfl
      | none =>
          refine Or.inr fun hwords => hne ?_
          rw [hphrase, hwords]
          rfl
  | @dated _ name body _ hs =>
      refine Or.inl (by_contra fun hne => hsense (Or.inr ⟨name, rfl, ?_⟩))
      refine Or.inr (Or.inr (Or.inr (Or.inl ⟨by rw [hs]; rfl, ?_⟩)))
      cases hdays : dayTexts? body.plainWord with
      | some bounds => rfl
      | none =>
          rw [hdays] at hne
          exact absurd rfl hne
  | @counted _ name body _ bounds hs hbounds =>
      cases bounds with
      | none => exact Or.inl rfl
      | some b =>
          refine absurd (Or.inr ⟨name, rfl, ?_⟩) hsense
          exact Or.inr (Or.inr (Or.inr (Or.inr ⟨by rw [hs]; rfl, b, hbounds⟩)))

/-! ### Queries -/

theorem lexemesTokens_isOk : ∀ {ls : List Lexeme},
    (∃ ts, lexemesTokens minStem ls = .ok ts) ↔ ∀ l ∈ ls, ∃ ts, l.tokens minStem = .ok ts
  | [] => by simp [lexemesTokens]
  | l :: ls => by
      rw [List.forall_mem_cons, ← lexemesTokens_isOk]
      constructor
      · rintro ⟨ts, h⟩
        obtain ⟨us, hus, h⟩ := bind_eq_ok.1 h
        obtain ⟨vs, hvs, -⟩ := bind_eq_ok.1 h
        exact ⟨⟨us, hus⟩, ⟨vs, hvs⟩⟩
      · rintro ⟨⟨us, hus⟩, ⟨vs, hvs⟩⟩
        exact ⟨us ++ vs, bind_eq_ok.2 ⟨us, hus, bind_eq_ok.2 ⟨vs, hvs, rfl⟩⟩⟩

theorem tokenize_isOk {query : String} : (∃ ts, tokenize query minStem = .ok ts) ↔
    ∀ l ∈ lexemes (normalize query.toList), ¬ l.Overflows := by
  unfold tokenize scan
  rw [lexemesTokens_isOk]
  exact forall₂_congr fun l hl => Lexeme.tokens_isOk (isUnbroken_of_mem_lexemes hl)

/-- A query is refused exactly when one of its lexemes is a counter with a bound that has no
numeral. Any other lexeme that makes no sense is taken for plain text, or for nothing. -/
theorem parse_isOk (query : String) (minStem : Int) :
    ((∃ ts, tokenize query minStem = .ok ts) ↔
      ∀ l ∈ lexemes (normalize query.toList), ¬ l.Overflows) ∧
    ((∃ ts, parse query minStem = .ok ts) ↔
      ∀ l ∈ lexemes (normalize query.toList), ¬ l.Overflows) ∧
    ∀ l ∈ lexemes (normalize query.toList), ¬ l.Overflows → ¬ l.MakesSense minStem →
      ∃ ts, l.tokens minStem = .ok ts ∧ IsText ts := by
  refine ⟨tokenize_isOk, ?_, fun l hl hover hsense => ?_⟩
  · rw [← tokenize_isOk]
    simp only [parse, map_eq_ok]
    exact ⟨fun ⟨_, ts, h, _⟩ => ⟨ts, h⟩, fun ⟨ts, h⟩ => ⟨_, ts, h, rfl⟩⟩
  · obtain ⟨ts, hts⟩ := (Lexeme.tokens_isOk (isUnbroken_of_mem_lexemes hl)).2 hover
    exact ⟨ts, hts, isText_of_not_makesSense hts hsense⟩

/-- A counter of one digit more than the limit is refused. -/
theorem refuses_overlong_count :
    ¬ ∃ ts, tokenize (String.ofList ("comments:".toList ++ List.replicate 4301 '1')) 2 = .ok ts := by
  have hones : ∀ c ∈ List.replicate 4301 '1', c = '1' := fun c hc => List.eq_of_mem_replicate hc
  have hchars : ∀ c ∈ "comments:".toList ++ List.replicate 4301 '1',
      c.toNat < 128 ∧ c.isUpper = false := by
    intro c hc
    rcases List.mem_append.1 hc with hc | hc
    · have hname : ∀ c ∈ "comments:".toList, c.toNat < 128 ∧ c.isUpper = false := by decide
      exact hname c hc
    · rw [hones c hc]
      decide
  have hne : List.replicate 4301 '1' ≠ [] := List.cons_ne_nil _ _
  have hlexemes : lexemes ("comments:".toList ++ List.replicate 4301 '1') =
      [.term false (some "comments".toList) (.word (List.replicate 4301 '1'))] := by
    have hname : ∀ c ∈ "comments".toList, isNameChar c = true := by decide +kernel
    have hunbroken : IsUnbroken (List.replicate 4301 '1') := fun c hc => by
      rw [hones c hc]
      decide
    have hquote : (List.replicate 4301 '1').head? ≠ some '"' := fun h =>
      absurd (hones '"' (List.mem_of_head? h)) (by decide)
    have h := lexemes_named false (by decide) hname hne hunbroken hquote endsWord_nil
    rw [List.append_nil, lexemes_nil] at h
    exact h
  have hover : (Lexeme.term false (some "comments".toList)
      (.word (List.replicate 4301 '1'))).Overflows := by
    have hdigit : isDigit '1' = true := by decide +kernel
    have hsign : [] ∈ Comparison.equal.spellings := List.mem_cons_self
    have hrun : IsRun (List.replicate 4301 '1') := ⟨hne, fun c hc => by rw [hones c hc, hdigit]⟩
    refine ⟨by decide, .comparison .equal (List.replicate 4301 '1'), ?_, Or.inl ?_⟩
    · exact Spells.comparison hsign hrun
    · rw [List.length_replicate]
      decide
  rw [tokenize_isOk, String.toList_ofList, normalize_ascii hchars, hlexemes]
  exact fun hall => hall _ List.mem_cons_self hover

end PostSearch.Query
