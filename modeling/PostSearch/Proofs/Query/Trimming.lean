import Mathlib.Data.List.DropRight
import PostSearch.Proofs.Query.Contents
import PostSearch.Proofs.Query.Words

/-! # Trimmed words

Every text of a parsed query is a phrase or what trimming left of a word (`isTrim_of_parse`). Such a
word ends with a letter or a numeral, or with one star behind it. So the star at the end of a word
can be taken away and put back (`IsTrimmed.dropStar`), and words that differ still differ without
it.

Main statements: every text of a parsed query is a phrase or a trimmed word
(`isTrimmed_of_parseWith`). Trimming keeps exactly the word of a text, and the words of parsed
queries are such words (`trim_keeps_word`). -/

namespace PostSearch.Query

open Unicode

variable {n : Int} {s w : List Char} {ts : List Token} {excluded : Bool} {body : Body} {l : Lexeme}
  {leaf : Leaf}

/-- The text ends with at most one star. -/
def IsTrimmed (w : List Char) : Prop :=
  ∃ c : List Char, c.getLast? ≠ some '*' ∧ (w = c ∨ w = c ++ ['*'])

def Leaf.IsTrimmed (leaf : Leaf) : Prop :=
  leaf.isPhrase = true ∨ Query.IsTrimmed leaf.value.toList

/-! ### Stars -/

theorem isTrimmed_trim (n : Int) (s : List Char) : IsTrimmed (trim n s) := by
  obtain h | ⟨w, hw, h⟩ := trim_cases n s
  · rw [h]
    exact ⟨[], by simp, Or.inl rfl⟩
  · exact ⟨w, hw.getLast?_ne, h.imp id And.left⟩

theorem dropWhileEnd_star (h : s.getLast? ≠ some '*') : dropWhileEnd (· == '*') s = s := by
  show s.rdropWhile (· == '*') = s
  rw [List.rdropWhile_eq_self_iff]
  intro hne hlast
  apply h
  rw [List.getLast?_eq_getLast_of_ne_nil hne]
  exact congrArg some (beq_iff_eq.1 hlast)

/-- The star at the end of a word is all that is dropped. -/
theorem IsTrimmed.dropStar (h : IsTrimmed w) (hstar : w.getLast? = some '*') :
    w = dropWhileEnd (· == '*') w ++ ['*'] := by
  obtain ⟨c, hc, rfl | rfl⟩ := h
  · exact absurd hstar hc
  · have hdrop : dropWhileEnd (· == '*') (c ++ ['*']) = dropWhileEnd (· == '*') c :=
      List.rdropWhile_concat_pos (· == '*') c '*' rfl
    rw [hdrop, dropWhileEnd_star hc]

theorem Leaf.isStem_iff {leaf : Leaf} : leaf.isStem = true ↔
    leaf.isPhrase = false ∧ leaf.value.toList.getLast? = some '*' := by
  simp [Leaf.isStem]

/-! ### Texts of tokens -/

/-- The text is a phrase, or trimming left it of a word. -/
def Leaf.IsTrim (n : Int) (leaf : Leaf) : Prop :=
  leaf.isPhrase = true ∨ ∃ s, trim n s ≠ [] ∧ leaf = ⟨leaf.excluded, false, String.ofList (trim n s)⟩

theorem isTrim_wordTokens (h : leaf ∈ (wordTokens excluded (trim n s)).flatMap Token.leaves) :
    leaf.IsTrim n := by
  obtain ⟨hne, rfl⟩ := mem_leaves_wordTokens h
  exact Or.inr ⟨s, hne, rfl⟩

theorem isTrim_bareTokens (h : leaf ∈ (bareTokens n excluded body).flatMap Token.leaves) :
    leaf.IsTrim n := by
  rcases mem_leaves_bareTokens h with ⟨phrase, -, -, rfl⟩ | ⟨hne, rfl⟩
  · exact Or.inl rfl
  · exact Or.inr ⟨_, hne, rfl⟩

theorem isTrim_scopeTokens {scope : Scope}
    (h : leaf ∈ (scopeTokens n excluded scope body).flatMap Token.leaves) : leaf.IsTrim n := by
  rcases mem_leaves_scopeTokens h with ⟨phrase, -, rfl⟩ | ⟨w, hw, rfl⟩
  · exact Or.inl rfl
  · obtain ⟨hw, hne⟩ := List.mem_filter.1 hw
    obtain ⟨piece, -, rfl⟩ := List.mem_map.1 hw
    exact Or.inr ⟨piece, of_decide_eq_true hne, rfl⟩

theorem Lexeme.isTrim_tokens (h : l.tokens n = .ok ts) (hleaf : leaf ∈ ts.flatMap Token.leaves) :
    leaf.IsTrim n := by
  cases means_of_tokens h with
  | pipe | plus | opened | listed | attached => cases hleaf
  | bare => exact isTrim_bareTokens hleaf
  | unknown => exact isTrim_wordTokens hleaf
  | inside => exact isTrim_scopeTokens hleaf
  | dated | counted =>
      obtain ⟨t, ht, hleaf⟩ := List.mem_flatMap.1 hleaf
      obtain ⟨lower, upper, -, rfl⟩ := mem_intervalTokens ht
      cases hleaf

theorem isTrim_of_parse {query : String} (h : parse query n = .ok ts)
    (hleaf : leaf ∈ ts.flatMap Token.leaves) : leaf.IsTrim n := by
  obtain ⟨l, -, us, hus, hleaf⟩ := (mem_leaves_parse h).1 hleaf
  exact Lexeme.isTrim_tokens hus hleaf

theorem isTrimmed_of_parseWith {query : String} {minStem : Datum}
    (h : parseWith query minStem = .ok ts) : ∀ leaf ∈ ts.flatMap Token.leaves, leaf.IsTrimmed := by
  obtain ⟨n, h⟩ := exists_parse_of_parseWith h
  intro leaf hleaf
  rcases isTrim_of_parse h hleaf with hphrase | ⟨s, -, hs⟩
  · exact Or.inl hphrase
  · rw [hs]
    refine Or.inr ?_
    rw [String.toList_ofList]
    exact isTrimmed_trim n s

/-- A text without letters and numerals is trimmed to nothing. A text with some of them has one word,
from the first to the last of them, and is trimmed to this word, with a star behind it if the text
ends with a star and the word is long enough. Trimming again changes nothing. The words of a parsed
query are such words, a star standing behind long enough ones only. -/
theorem trim_keeps_word (n : Int) :
    (∀ s, (∀ c ∈ s, isAlphanumeric c = false) → trim n s = []) ∧
      (∀ s, (∃ c ∈ s, isAlphanumeric c = true) → ∃ w, IsWordOf w s) ∧
      (∀ s w, IsWordOf w s → trim n s =
        if (strip s).getLast? = some '*' ∧ n ≤ w.length then w ++ ['*'] else w) ∧
      (∀ s, trim n (trim n s) = trim n s) ∧
      ∀ query ts, parse query n = .ok ts → ∀ leaf ∈ ts.flatMap Token.leaves,
        leaf.isPhrase = false → ∃ w, IsWord w ∧
          (leaf.value.toList = w ∨ leaf.value.toList = w ++ ['*'] ∧ n ≤ w.length) := by
  refine ⟨fun s => trim_eq_nil, fun s => exists_isWordOf, fun s w => trim_eq, trim_trim n, ?_⟩
  intro query ts hts leaf hleaf hphrase
  rcases isTrim_of_parse hts hleaf with hphrase' | ⟨s, hne, hs⟩
  · rw [hphrase] at hphrase'
    cases hphrase'
  · obtain ⟨w, hw, hcases⟩ := (trim_cases n s).resolve_left hne
    refine ⟨w, hw, ?_⟩
    rw [hs, String.toList_ofList]
    exact hcases

/-- A hyphen inside a word is part of it, and a word of five characters keeps its star. -/
theorem trim_keeps_word_hyphen :
    IsWordOf "co-op".toList "(co-op!)* ".toList ∧
      trim 5 "(co-op!)* ".toList = "co-op*".toList ∧
      parse "(Co-op!)* x*" 5 =
        .ok [.sequence [[⟨false, false, "co-op*"⟩]], .sequence [[⟨false, false, "x"⟩]]] ∧
      ∃ w, IsWord w ∧ ("co-op*".toList = w ∨ "co-op*".toList = w ++ ['*'] ∧ 5 ≤ (w.length : Int)) := by
  have hparse : parse "(Co-op!)* x*" 5 =
      .ok [.sequence [[⟨false, false, "co-op*"⟩]], .sequence [[⟨false, false, "x"⟩]]] := by
    decide +kernel
  have hword : IsWordOf "co-op".toList "(co-op!)* ".toList := by
    refine ⟨⟨⟨'c', rfl, ?_⟩, 'p', rfl, ?_⟩, ['('], "!)* ".toList, rfl, ?_, ?_⟩
    all_goals decide +kernel
  obtain ⟨-, -, htrim, -, hleaves⟩ := trim_keeps_word 5
  refine ⟨hword, ?_, hparse, hleaves _ _ hparse ⟨false, false, "co-op*"⟩ (by decide) rfl⟩
  rw [htrim _ _ hword]
  decide

end PostSearch.Query
