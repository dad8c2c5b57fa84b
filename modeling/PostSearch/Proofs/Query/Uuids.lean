import PostSearch.Proofs.Query.Blanks
import PostSearch.Proofs.Query.Roundtrip
import PostSearch.Query.StemLength

/-! # UUIDs in queries

A UUID is one lexeme, as a word and between quotes, and both are read as the phrase of its parts.
The length of the shortest stem plays no part in it (`tokenizeWith_phrase`).

Main statement: UUIDs are the texts of their form and nothing else, and each of them is read as a
phrase in either letter case, quoted or not, excluded or not (`tokenizeWith_uuid`). -/

namespace PostSearch.Query

open Unicode Uuid

variable {s phrase : List Char} {body : Body} {excluded : Bool} {query : String}
  {minStem : Datum}

/-- A query of a single phrase is that phrase, whatever is given for the length of the shortest
stem. -/
theorem tokenizeWith_phrase
    (hl : lexemes (normalize query.toList) = [.term excluded none body])
    (hopen : openedScope? (Lexeme.term excluded none body).text = none)
    (hphrase : body.phrase? = some phrase) (hvisible : IsVisible phrase) :
    tokenizeWith query minStem = .ok [.group [⟨excluded, true, String.ofList phrase⟩]] := by
  have hstrip : strip phrase ≠ [] := by
    intro h
    obtain ⟨c, hc, hblank⟩ := hvisible
    rw [stripWhere_eq_nil.1 h c hc] at hblank
    cases hblank
  have htokens : ∀ n, lexemesTokens n [.term excluded none body] =
      .ok [.group [⟨excluded, true, String.ofList phrase⟩]] := by
    intro n
    simp only [lexemesTokens, Lexeme.tokens, hopen, bareTokens, hphrase, if_neg hstrip]
    rfl
  have hasks : (Lexeme.term excluded none body).asksLength = false := by
    simp [Lexeme.asksLength, hopen, hphrase]
  unfold tokenizeWith lexemesTokensWith
  rw [hl]
  cases minStem.number? with
  | some n =>
      simp only [htokens]
      rfl
  | none =>
      simp only [List.takeWhile_cons, List.takeWhile_nil, List.all_cons, List.all_nil, hasks,
        Bool.not_false, Bool.and_true, if_true, htokens]
      rfl

/-! ### The lexeme of a UUID -/

theorem begins_uuid (h : isCanonical s = true) : Begins s := by
  have hdigits : ∀ k < 16, isBlank (Nat.digitChar k) = false ∧
      Nat.digitChar k ∉ ['|', '+', '-'] := by
    decide
  obtain ⟨k, hk, hhead⟩ := exists_head?_of_isCanonical h
  constructor
  · rintro rfl
    cases hhead
  · intro c hc
    obtain rfl : Nat.digitChar k = c := Option.some.inj (hhead.symm.trans hc)
    exact hdigits k hk

theorem lexemes_uuid (h : IsHyphenated s) :
    lexemes ((exclusionMark excluded).toList ++ s) = [.term excluded none (.word s)] := by
  have hbegins : Begins s := begins_uuid (isCanonical_iff_isHyphenated.2 h)
  have hunbroken : IsUnbroken s := h.forall_mem (by decide)
  have hcolon : ∀ c ∈ s, c ≠ ':' := h.forall_mem (by decide)
  have hquote : ∀ c ∈ s, c ≠ '"' := h.forall_mem (by decide)
  have hnamed := named?_word hbegins.1 hunbroken (fun hmem => hcolon _ hmem rfl)
    (fun hmem => hquote _ hmem rfl) endsWord_nil
  rw [List.append_nil] at hnamed
  rw [exclusionMark_toList, lexemes_term excluded hbegins hnamed, lexemes_nil]

theorem lexemes_quoted {inner : List Char}
    (h : closeQuote? (inner ++ ['"']) = some (inner, [])) :
    lexemes ((exclusionMark excluded).toList ++ (Body.quoted inner).text) =
      [.term excluded none (.quoted inner)] := by
  have hnamed := named?_quoted h
  rw [List.append_nil] at hnamed
  rw [exclusionMark_toList, lexemes_term excluded (begins_quoted inner) hnamed, lexemes_nil]

theorem escaped_uuid (h : IsHyphenated s) : s.flatMap Text.Json.escapeChar = s := by
  have hplain : ∀ c ∈ s, Text.Json.escapeChar c = [c] := h.forall_mem (by decide)
  rw [List.flatMap_congr hplain, List.flatMap_singleton']

/-! ### Queries of one UUID -/

theorem normalize_excluded {q : List Char} (h : IsAscii q) :
    normalize (exclusionMark excluded ++ String.ofList q).toList =
      (exclusionMark excluded).toList ++ q.map Char.toLower := by
  have hmark : IsAscii (exclusionMark excluded).toList ∧
      (exclusionMark excluded).toList.map Char.toLower = (exclusionMark excluded).toList := by
    cases excluded <;> decide
  have hascii : IsAscii ((exclusionMark excluded).toList ++ q) := fun c hc =>
    (List.mem_append.1 hc).elim (hmark.1 c) (h c)
  rw [String.toList_append, String.toList_ofList, normalize_map_toLower hascii, List.map_append,
    hmark.2]

theorem tokenizeWith_word_uuid (h : IsHyphenated s) {q : List Char} (hq : IsAscii q)
    (hlower : q.map Char.toLower = s) :
    tokenizeWith (exclusionMark excluded ++ String.ofList q) minStem =
      .ok [.group [⟨excluded, true, String.ofList (phraseOf s)⟩]] := by
  have hcanonical : isCanonical s = true := isCanonical_iff_isHyphenated.2 h
  have hcolon : ∀ c ∈ s, c ≠ ':' := h.forall_mem (by decide)
  have hlast : (Lexeme.term excluded none (.word s)).text.getLast? ≠ some ':' := by
    rw [text_getLast? (.word s) (begins_uuid hcanonical).1]
    exact fun hmem => hcolon ':' (List.mem_of_getLast? hmem) rfl
  have hlexemes : lexemes (normalize (exclusionMark excluded ++ String.ofList q).toList) =
      [.term excluded none (.word s)] := by
    rw [normalize_excluded hq, hlower, lexemes_uuid h]
  exact tokenizeWith_phrase hlexemes (openedScope?_of_last hlast) (if_pos hcanonical)
    (isVisible_phraseOf_uuid hcanonical).2

theorem tokenizeWith_quoted_uuid (h : IsHyphenated s) :
    tokenizeWith (exclusionMark excluded ++ String.ofList ('"' :: s ++ ['"'])) minStem =
      .ok [.group [⟨excluded, true, String.ofList (phraseOf s)⟩]] := by
  have hcanonical : isCanonical s = true := isCanonical_iff_isHyphenated.2 h
  have hprintable : ∀ c ∈ s, Written.isPhraseChar c = true := h.forall_mem (by decide)
  have hclose := Written.closeQuote?_escaped hprintable []
  have hunquote := Written.unescape?_escaped hprintable
  rw [escaped_uuid h] at hclose hunquote
  have hplain : IsAscii s := h.forall_mem (by decide)
  have hascii : IsAscii ('"' :: s ++ ['"']) := by
    intro c hc
    rw [List.cons_append, List.mem_cons, List.mem_append, List.mem_singleton] at hc
    rcases hc with rfl | hc | rfl
    · decide
    · exact hplain c hc
    · decide
  have hlower : ('"' :: s ++ ['"']).map Char.toLower = (Body.quoted s).text := by
    have hself : ∀ c ∈ s, c.toLower = c := h.forall_mem (by decide)
    rw [List.map_append, List.map_cons, List.map_congr_left hself, List.map_id']
    rfl
  have hlexemes : lexemes (normalize
      (exclusionMark excluded ++ String.ofList ('"' :: s ++ ['"'])).toList) =
        [.term excluded none (.quoted s)] := by
    rw [normalize_excluded hascii, hlower, lexemes_quoted hclose]
  have hphrase : (Body.quoted s).phrase? = some (phraseOf s) := by
    rw [Body.phrase?, unquote, hunquote, Option.getD_some]
  exact tokenizeWith_phrase hlexemes (openedScope?_quoted none s) hphrase
    (isVisible_phraseOf_uuid hcanonical).2

/-- Exactly the UUIDs in canonical form are recognised. Each of them, in lower or upper case or
between quotes, with or without a sign, is read as one phrase, in which spaces stand for the
hyphens, whatever is given for the length of the shortest stem. -/
theorem tokenizeWith_uuid (s : List Char) :
    (isCanonical s = true ↔ IsHyphenated s) ∧
      (IsHyphenated s → ∀ (excluded : Bool) (minStem : Datum),
        ∀ query ∈ [s, s.map Char.toUpper, '"' :: s ++ ['"']],
          tokenizeWith (exclusionMark excluded ++ String.ofList query) minStem =
            .ok [.group [⟨excluded, true,
              String.ofList (s.map fun c => if c = '-' then ' ' else c)⟩]]) := by
  refine ⟨isCanonical_iff_isHyphenated, fun h excluded minStem query hquery => ?_⟩
  have hphrase : phraseOf s = s.map fun c => if c = '-' then ' ' else c :=
    if_pos (isCanonical_iff_isHyphenated.2 h)
  have hascii : IsAscii s ∧ IsAscii (s.map Char.toUpper) := by
    have hupper : ∀ c ∈ s, c.toUpper.toNat < 128 := h.forall_mem (by decide)
    refine ⟨h.forall_mem (by decide), fun c hc => ?_⟩
    obtain ⟨d, hd, rfl⟩ := List.mem_map.1 hc
    exact hupper d hd
  have hlower : s.map Char.toLower = s := by
    have hself : ∀ c ∈ s, c.toLower = c := h.forall_mem (by decide)
    rw [List.map_congr_left hself, List.map_id']
  have hupper : (s.map Char.toUpper).map Char.toLower = s := by
    have hself : ∀ c ∈ s, c.toUpper.toLower = c := h.forall_mem (by decide)
    rw [List.map_map]
    exact (List.map_congr_left hself).trans (List.map_id' s)
  rw [← hphrase]
  simp only [List.mem_cons, List.not_mem_nil, or_false] at hquery
  rcases hquery with rfl | rfl | rfl
  · exact tokenizeWith_word_uuid h hascii.1 hlower
  · exact tokenizeWith_word_uuid h hascii.2 hupper
  · exact tokenizeWith_quoted_uuid h

/-- A UUID in capitals, excluded. -/
theorem tokenizeWith_uuid_capitals :
    isCanonical "20a4bc5f-1e6c-4d37-9e1a-0b7c52f3de98".toList = true ∧
      tokenizeWith "-20A4BC5F-1E6C-4D37-9E1A-0B7C52F3DE98" .null =
        .ok [.group [⟨true, true, "20a4bc5f 1e6c 4d37 9e1a 0b7c52f3de98"⟩]] := by
  have huuid : IsHyphenated "20a4bc5f-1e6c-4d37-9e1a-0b7c52f3de98".toList := by decide
  obtain ⟨hiff, hread⟩ := tokenizeWith_uuid "20a4bc5f-1e6c-4d37-9e1a-0b7c52f3de98".toList
  exact ⟨hiff.2 huuid, hread huuid true .null "20A4BC5F-1E6C-4D37-9E1A-0B7C52F3DE98".toList
    (by decide)⟩

end PostSearch.Query
