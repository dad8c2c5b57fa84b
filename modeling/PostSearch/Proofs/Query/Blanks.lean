import PostSearch.Proofs.Query.Contents
import PostSearch.Proofs.Query.Words
import PostSearch.Proofs.Text.Uuid

/-! # Blank texts

Words are stripped, and phrases by themselves are dropped if they are blank. Phrases in a scope are
not looked at, so a query has blank texts exactly if it has a blank quotation in a scope
(`parseWith_visible_iff`). -/

namespace PostSearch.Query

open Unicode

variable {n : Int} {l : Lexeme} {s : List Char} {ts : List Token} {excluded : Bool} {body : Body}

/-- Some character of the text is no blank. -/
def IsVisible (s : List Char) : Prop :=
  ∃ c ∈ s, isBlank c = false

instance : DecidablePred IsVisible :=
  List.decidableBEx fun c => isBlank c = false

/-- The lexeme puts a quotation of nothing but blanks into a scope. -/
def Lexeme.IsBlankInScope : Lexeme → Prop
  | .term _ (some name) (.quoted inner) =>
    (spelled? name scopeSpellings).isSome ∧ ¬ IsVisible (unquote inner)
  | _ => False

theorem isBlankInScope_iff : l.IsBlankInScope ↔ ∃ excluded name inner,
    l = .term excluded (some name) (.quoted inner) ∧ (spelled? name scopeSpellings).isSome ∧
      ¬ IsVisible (unquote inner) := by
  constructor
  · intro h
    unfold Lexeme.IsBlankInScope at h
    split at h
    · exact ⟨_, _, _, rfl, h⟩
    · cases h
  · rintro ⟨_, _, _, rfl, h⟩
    exact h

/-! ### Words and phrases -/

theorem isVisible_of_isAlphanumeric {c : Char} (hc : c ∈ s) (h : isAlphanumeric c = true) :
    IsVisible s :=
  ⟨c, hc, isBlank_of_isAlphanumeric h⟩

theorem isVisible_of_strip (h : strip s ≠ []) : IsVisible s := by
  obtain ⟨c, hc, hblank⟩ := exists_mem_stripWhere h
  exact ⟨c, of_mem_stripWhere hc, hblank⟩

theorem isVisible_trim (h : trim n s ≠ []) : IsVisible (trim n s) := by
  obtain hnil | ⟨w, ⟨⟨c, hfirst, hletter⟩, -⟩, hw⟩ := trim_cases n s
  · exact absurd hnil h
  · have hc : c ∈ w := List.mem_of_head? hfirst
    refine isVisible_of_isAlphanumeric ?_ hletter
    rcases hw with hw | ⟨hw, -⟩
    · rwa [hw]
    · rw [hw]
      exact List.mem_append_left _ hc

theorem isVisible_of_mem_words {w : List Char} (h : w ∈ words n s) : IsVisible w := by
  obtain ⟨hw, hne⟩ := List.mem_filter.1 h
  obtain ⟨piece, -, rfl⟩ := List.mem_map.1 hw
  exact isVisible_trim (of_decide_eq_true hne)

theorem isVisible_digitChar {k : Nat} (hk : k < 16) (h : Nat.digitChar k ∈ s) : IsVisible s := by
  have hdigits : ∀ k < 16, isBlank (Nat.digitChar k) = false := by decide
  exact ⟨_, h, hdigits k hk⟩

/-- The digits of a UUID are not its hyphens. -/
theorem isVisible_phraseOf_uuid (h : Uuid.isCanonical s = true) :
    IsVisible s ∧ IsVisible (phraseOf s) := by
  obtain ⟨k, hk, hhead⟩ := Uuid.exists_head?_of_isCanonical h
  have hmem := List.mem_of_head? hhead
  have hne : ∀ k < 16, Nat.digitChar k ≠ '-' := by decide
  refine ⟨isVisible_digitChar hk hmem, isVisible_digitChar hk ?_⟩
  rw [phraseOf, if_pos h]
  exact List.mem_map.2 ⟨_, hmem, if_neg (hne k hk)⟩

theorem isVisible_phraseOf : IsVisible (phraseOf s) ↔ IsVisible s := by
  by_cases h : Uuid.isCanonical s = true
  · exact iff_of_true (isVisible_phraseOf_uuid h).2 (isVisible_phraseOf_uuid h).1
  · rw [phraseOf, if_neg h]

/-! ### Texts of lexemes -/

def AreVisible (ts : List Token) : Prop :=
  ∀ leaf ∈ ts.flatMap Token.leaves, IsVisible leaf.value.toList

theorem areVisible_wordTokens : AreVisible (wordTokens excluded (trim n s)) := by
  intro leaf hleaf
  obtain ⟨hne, rfl⟩ := mem_leaves_wordTokens hleaf
  rw [String.toList_ofList]
  exact isVisible_trim hne

theorem areVisible_bareTokens : AreVisible (bareTokens n excluded body) := by
  intro leaf hleaf
  rcases mem_leaves_bareTokens hleaf with ⟨phrase, -, hne, rfl⟩ | ⟨hne, rfl⟩
  · rw [String.toList_ofList]
    exact isVisible_of_strip hne
  · rw [String.toList_ofList]
    exact isVisible_trim hne

/-- In a scope words are visible, and phrases are if their quotation is. -/
theorem areVisible_scopeTokens {scope : Scope} (h : ∀ phrase ∈ body.phrase?, IsVisible phrase) :
    AreVisible (scopeTokens n excluded scope body) := by
  intro leaf hleaf
  rcases mem_leaves_scopeTokens hleaf with ⟨phrase, hphrase, rfl⟩ | ⟨w, hw, rfl⟩
  · rw [String.toList_ofList]
    exact h phrase hphrase
  · rw [String.toList_ofList]
    exact isVisible_of_mem_words hw

/-- The texts of a lexeme are visible unless it puts a blank quotation into a scope. -/
theorem Lexeme.areVisible_tokens (h : l.tokens n = .ok ts) :
    AreVisible ts ↔ ¬ l.IsBlankInScope := by
  constructor
  · intro hvisible hblank
    obtain ⟨excluded, name, inner, rfl, hscope, hinner⟩ := isBlankInScope_iff.1 hblank
    obtain ⟨scope, hscope⟩ := Option.isSome_iff_exists.1 hscope
    simp only [Lexeme.tokens, openedScope?_quoted, namedTokens, spelled?_scope hscope, hscope] at h
    cases h
    refine hinner (isVisible_phraseOf.1 ?_)
    simpa [AreVisible, scopeTokens, Body.phrase?, Token.leaves] using hvisible
  · intro hblank
    cases means_of_tokens h with
    | pipe | plus | opened | listed | attached =>
        intro leaf hleaf
        cases hleaf
    | bare => exact areVisible_bareTokens
    | unknown => exact areVisible_wordTokens
    | @inside excluded name body scope hs =>
        refine areVisible_scopeTokens fun phrase hphrase => ?_
        cases body with
        | quoted inner =>
            cases hphrase
            by_contra hinner
            exact hblank ⟨Option.isSome_of_eq_some hs, fun h => hinner (isVisible_phraseOf.2 h)⟩
        | word w =>
            simp only [Body.phrase?] at hphrase
            split at hphrase
            · rename_i huuid
              cases hphrase
              exact (isVisible_phraseOf_uuid huuid).2
            · cases hphrase
    | dated | counted =>
        intro leaf hleaf
        obtain ⟨t, ht, hleaf⟩ := List.mem_flatMap.1 hleaf
        obtain ⟨lower, upper, -, rfl⟩ := mem_intervalTokens ht
        cases hleaf

/-! ### Parsed queries -/

/-- The texts of a parsed query are visible unless it puts a blank quotation into a scope. -/
theorem parseWith_visible_iff {query : String} {minStem : Datum}
    (h : parseWith query minStem = .ok ts) :
    (∀ leaf ∈ ts.flatMap Token.leaves, IsVisible leaf.value.toList) ↔
      ∀ l ∈ lexemes (normalize query.toList), ¬ l.IsBlankInScope := by
  obtain ⟨n, h⟩ := exists_parse_of_parseWith h
  obtain ⟨us, hus, -⟩ := exists_scanned h
  constructor
  · intro hvisible l hl
    obtain ⟨vs, hvs, -⟩ := exists_tokens_of_mem hus hl
    rw [← Lexeme.areVisible_tokens hvs]
    exact fun leaf hleaf => hvisible leaf ((mem_leaves_parse h).2 ⟨l, hl, vs, hvs, hleaf⟩)
  · intro hblank leaf hleaf
    obtain ⟨l, hl, vs, hvs, hleaf⟩ := (mem_leaves_parse h).1 hleaf
    exact (Lexeme.areVisible_tokens hvs).2 (hblank l hl) leaf hleaf

theorem parseWith_inBody {inner : List Char}
    (hplain : ∀ c ∈ inner, c.toNat < 128 ∧ c.isUpper = false)
    (hclose : ∀ rest, closeQuote? (inner ++ '"' :: rest) = some (inner, rest)) :
    parseWith (String.ofList ("in-body:\"".toList ++ (inner ++ ['"']))) (.number n) =
      .ok [.inScope .posts [⟨false, true, String.ofList (phraseOf (unquote inner))⟩]] := by
  have hname : Begins "in-body".toList ∧ ∀ c ∈ "in-body".toList, isNameChar c = true := by
    decide +kernel
  have hmarks : ∀ c ∈ "in-body:\"".toList, c.toNat < 128 ∧ c.isUpper = false := by decide
  have htext : (exclusionMark false).toList ++ ("in-body".toList ++ ':' ::
      (Body.quoted inner).text) = "in-body:\"".toList ++ (inner ++ ['"']) := rfl
  have hascii : ∀ c ∈ "in-body:\"".toList ++ (inner ++ ['"']),
      c.toNat < 128 ∧ c.isUpper = false := by
    intro c hc
    rcases List.mem_append.1 hc with hc | hc
    · exact hmarks c hc
    · rcases List.mem_append.1 hc with hc | hc
      · exact hplain c hc
      · exact hmarks c (List.mem_singleton.1 hc ▸ by decide)
  have hscans : Scans n ((exclusionMark false).toList ++ ("in-body".toList ++ ':' ::
      (Body.quoted inner).text)) _ := Scans.namedQuoted hname.1 hname.2 hclose fun _ => rfl
  rw [htext] at hscans
  rw [parseWith_number, parse, tokenize, String.toList_ofList, normalize_ascii hascii,
    scan_of_scans hscans]
  rfl

/-- A letter is visible. -/
theorem parseWith_visible_iff_letter :
    parseWith "in-body:\"a\"" (.number 2) = .ok [.inScope .posts [⟨false, true, "a"⟩]] ∧
      ∀ l ∈ lexemes (normalize "in-body:\"a\"".toList), ¬ l.IsBlankInScope := by
  have h : parseWith "in-body:\"a\"" (.number 2) = .ok [.inScope .posts [⟨false, true, "a"⟩]] := by
    decide +kernel
  exact ⟨h, (parseWith_visible_iff h).1 (by decide)⟩

/-- A space between quotes is looked for in the posts. -/
theorem blank_quotation_inBody : ¬ ∀ query minStem ts, parseWith query minStem = .ok ts →
    ∀ leaf ∈ ts.flatMap Token.leaves, IsVisible leaf.value.toList := by
  have hspace : ∀ c ∈ [' '], c.toNat < 128 ∧ c.isUpper = false := by decide
  have htext : String.ofList ("in-body:\"".toList ++ ([' '] ++ ['"'])) = "in-body:\" \"" := by
    decide +kernel
  have hvalue : String.ofList (phraseOf (unquote [' '])) = " " := by decide +kernel
  have h := parseWith_inBody (n := 2) hspace fun _ => rfl
  rw [htext, hvalue] at h
  intro hall
  have hvisible := hall _ _ _ h
  revert hvisible
  decide

end PostSearch.Query
