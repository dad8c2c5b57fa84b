import PostSearch.Proofs.Except
import PostSearch.Query.LexemeTokens

/-! # What lexemes mean

`Lexeme.Means` lists everything that a lexeme can come to, case by case; whatever tokens a lexeme
has, it means them (`means_of_tokens`). -/

namespace PostSearch.Query

variable {minStem : Int} {ts : List Token} {l : Lexeme}

/-! ### Spellings -/

theorem mem_of_spelled? {α : Type} {name : List Char} {table : List (String × α)} {a : α}
    (h : spelled? name table = some a) :
    (String.ofList (Text.dropFinalNewline name), a) ∈ table := by
  obtain ⟨before, after, rfl, -⟩ := List.lookup_eq_some_iff.1 h
  exact List.mem_append_right _ List.mem_cons_self

theorem spelled?_mem {α : Type} {name : List Char} {table : List (String × α)} {a : α}
    (h : spelled? name table = some a) : a ∈ table.map Prod.snd :=
  List.mem_map_of_mem (mem_of_spelled? h)

/-- Scopes are spelled otherwise than lists of words. -/
theorem spelled?_scope {name : List Char} {scope : Scope}
    (h : spelled? name scopeSpellings = some scope) : spelled? name listSpellings = none := by
  have hkeys : ∀ p ∈ scopeSpellings, listSpellings.lookup p.1 = none := by decide
  exact hkeys _ (mem_of_spelled? h)

theorem openedScope?_of_last {raw : List Char} (h : raw.getLast? ≠ some ':') :
    openedScope? raw = none := by
  unfold openedScope?
  exact if_neg h

theorem text_getLast? {excluded : Bool} {name : Option (List Char)} (body : Body)
    (h : body.text ≠ []) :
    (Lexeme.term excluded name body).text.getLast? = body.text.getLast? := by
  unfold Lexeme.text
  exact List.getLast?_append_of_ne_nil _ h

/-! ### Meanings -/

/-- The tokens are what the lexeme means. -/
inductive Lexeme.Means (minStem : Int) : Lexeme → List Token → Prop
  | pipe : Means minStem .pipe [.pipe]
  | plus : Means minStem .plus [.plus]
  /-- A spelling of a scope and a colon. -/
  | opened {l : Lexeme} {scope : Scope} (h : openedScope? l.text = some scope) :
      Means minStem l [.scopeStart scope]
  | bare {excluded : Bool} {body : Body} :
      Means minStem (.term excluded none body) (bareTokens minStem excluded body)
  | listed {excluded : Bool} {name : List Char} {body : Body} {o : Operator}
      (h : spelled? name listSpellings = some o) :
      Means minStem (.term excluded (some name) body)
        [.condition ⟨excluded, o, (words minStem body.listed).map String.ofList⟩]
  | inside {excluded : Bool} {name : List Char} {body : Body} {scope : Scope}
      (h : spelled? name scopeSpellings = some scope) :
      Means minStem (.term excluded (some name) body) (scopeTokens minStem excluded scope body)
  | dated {excluded : Bool} {name : List Char} {body : Body} {o : Operator}
      (h : spelled? name dateSpellings = some o) :
      Means minStem (.term excluded (some name) body)
        (intervalTokens excluded o (Interval.dayTexts? body.plainWord))
  | attached {excluded : Bool} {name : List Char} {body : Body} {o : Operator}
      (h : spelled? name fileSpellings = some o) :
      Means minStem (.term excluded (some name) body)
        [.condition ⟨excluded, o, (fileTypes body.plainWord).map String.ofList⟩]
  | counted {excluded : Bool} {name : List Char} {body : Body} {o : Operator}
      {bounds : Option (String × String)} (h : spelled? name counterSpellings = some o)
      (hbounds : Interval.countTexts? body.plainWord = .ok bounds) :
      Means minStem (.term excluded (some name) body) (intervalTokens excluded o bounds)
  /-- A name that spells nothing belongs to the word. -/
  | unknown {excluded : Bool} {name : List Char} {body : Body}
      (hlist : spelled? name listSpellings = none) (hscope : spelled? name scopeSpellings = none)
      (hdate : spelled? name dateSpellings = none) (hfile : spelled? name fileSpellings = none)
      (hcounter : spelled? name counterSpellings = none) :
      Means minStem (.term excluded (some name) body)
        (wordTokens excluded (trim minStem (Lexeme.term excluded (some name) body).text))

theorem means_of_namedTokens {excluded : Bool} {name : List Char} {body : Body}
    (h : namedTokens minStem excluded name body (Lexeme.term excluded (some name) body).text =
      .ok ts) : (Lexeme.term excluded (some name) body).Means minStem ts := by
  unfold namedTokens at h
  split at h
  · cases h
    exact .listed ‹_›
  rename_i hlist
  split at h
  · cases h
    exact .inside ‹_›
  rename_i hscope
  split at h
  · cases h
    exact .dated ‹_›
  rename_i hdate
  split at h
  · cases h
    exact .attached ‹_›
  rename_i hfile
  split at h
  · obtain ⟨bounds, hbounds, rfl⟩ := map_eq_ok.1 h
    exact .counted ‹_› hbounds
  · rename_i hcounter
    cases h
    exact .unknown hlist hscope hdate hfile hcounter

theorem means_of_tokens (h : l.tokens minStem = .ok ts) : l.Means minStem ts := by
  unfold Lexeme.tokens at h
  split at h
  · cases h
    exact .pipe
  · cases h
    exact .plus
  · split at h
    · cases h
      exact .opened ‹_›
    · split at h
      · exact means_of_namedTokens h
      · cases h
        exact .bare

/-! ### Tokens of texts -/

def IsText (ts : List Token) : Prop :=
  ts = [] ∨ ∃ leaf, ts = [.group [leaf]]

theorem IsText.eq_group {t : Token} (h : IsText ts) (ht : t ∈ ts) : ∃ leaf, t = .group [leaf] := by
  rcases h with rfl | ⟨leaf, rfl⟩
  · cases ht
  · exact ⟨leaf, List.mem_singleton.1 ht⟩

theorem isText_wordTokens (excluded : Bool) (w : List Char) : IsText (wordTokens excluded w) := by
  unfold wordTokens
  split
  · exact Or.inl rfl
  · exact Or.inr ⟨_, rfl⟩

theorem isText_bareTokens (minStem : Int) (excluded : Bool) (body : Body) :
    IsText (bareTokens minStem excluded body) := by
  unfold bareTokens
  split
  · split
    · exact Or.inl rfl
    · exact Or.inr ⟨_, rfl⟩
  · exact isText_wordTokens excluded _

/-- Texts in a scope are one text, several words that are looked for, or one excluded word each. -/
theorem mem_scopeTokens {excluded : Bool} {scope : Scope} {body : Body} {t : Token}
    (h : t ∈ scopeTokens minStem excluded scope body) : ∃ g, t = .inScope scope g ∧ g ≠ [] ∧
      (g.length = 1 ∨ ∀ leaf ∈ g, leaf.excluded = false ∧ leaf.isPhrase = false) := by
  unfold scopeTokens at h
  split at h
  · obtain rfl := List.mem_singleton.1 h
    exact ⟨_, rfl, List.cons_ne_nil _ _, Or.inl rfl⟩
  · dsimp only at h
    split at h
    · cases h
    · rename_i hne
      split at h
      · obtain ⟨leaf, -, rfl⟩ := List.mem_map.1 h
        exact ⟨_, rfl, List.cons_ne_nil _ _, Or.inl rfl⟩
      · rename_i hexcluded
        obtain rfl := List.mem_singleton.1 h
        refine ⟨_, rfl, hne, Or.inr fun leaf hleaf => ?_⟩
        obtain ⟨w, -, rfl⟩ := List.mem_map.1 hleaf
        exact ⟨Bool.eq_false_iff.2 hexcluded, rfl⟩

theorem mem_intervalTokens {excluded : Bool} {o : Operator} {b : Option (String × String)}
    {t : Token} (h : t ∈ intervalTokens excluded o b) :
    ∃ lower upper, b = some (lower, upper) ∧ t = .condition ⟨excluded, o, [lower, upper]⟩ := by
  unfold intervalTokens at h
  split at h
  · exact ⟨_, _, rfl, List.mem_singleton.1 h⟩
  · cases h

end PostSearch.Query
