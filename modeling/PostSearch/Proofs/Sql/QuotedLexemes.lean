import Mathlib.Logic.Function.Basic
import PostSearch.Sql.TextQuery

/-! # Reading quoted lexemes

In a text search expression a quoted operand is read from its opening quote to the quote that
closes it (`operand?`). A quoted lexeme is read as its word wherever no quote comes right after it
(`operand?_quoteLexeme_append`), so different words have different lexemes (`quoteLexeme_inj`).

Main statement: a lexeme in front of `:*` is one closed operand that says its word, and so is the
lexeme of a stem (`quoteLexeme_operand`). -/

namespace PostSearch.Sql

variable {v w rest s : List Char} {c : Char}

/-! ### Operands -/

/-- What a quoted operand says, read behind its opening quote, and what follows it. A backslash
takes the next character as it stands, two quotes are one quote, and any other quote closes the
operand. -/
def closeOperand? : List Char → Option (List Char × List Char)
  | [] => none
  | ['\\'] => none
  | '\\' :: c :: s => (closeOperand? s).map fun (w, rest) => (c :: w, rest)
  | '\'' :: '\'' :: s => (closeOperand? s).map fun (w, rest) => ('\'' :: w, rest)
  | '\'' :: s => some ([], s)
  | c :: s => (closeOperand? s).map fun (w, rest) => (c :: w, rest)

/-- What the quoted operand at the start of a text says, and what follows it. -/
def operand? : List Char → Option (List Char × List Char)
  | '\'' :: s => closeOperand? s
  | _ => none

theorem closeOperand?_lexemeChar (c : Char) (s : List Char) :
    closeOperand? (lexemeChar c ++ s) =
      (closeOperand? s).map fun (w, rest) => (c :: w, rest) := by
  unfold lexemeChar
  split
  · rename_i hc
    rw [hc]
    rfl
  · rename_i hbackslash
    split
    · rename_i hc
      rw [hc]
      rfl
    · rename_i hquote
      rw [List.singleton_append, closeOperand?]
      all_goals simp_all

theorem closeOperand?_quote (h : rest.head? ≠ some '\'') :
    closeOperand? ('\'' :: rest) = some ([], rest) := by
  cases rest with
  | nil => rfl
  | cons c rest =>
      have hc : c ≠ '\'' := by simpa using h
      rw [closeOperand?]
      simpa using hc

/-- A lexeme is read up to its last quote. -/
theorem operand?_quoteLexeme_append (w : List Char) (h : rest.head? ≠ some '\'') :
    operand? (quoteLexeme w ++ rest) = some (w, rest) := by
  have hinner : closeOperand? (w.flatMap lexemeChar ++ '\'' :: rest) = some (w, rest) := by
    induction w with
    | nil => exact closeOperand?_quote h
    | cons c w ih =>
        rw [List.flatMap_cons, List.append_assoc, closeOperand?_lexemeChar, ih]
        rfl
  rw [quoteLexeme, List.append_assoc]
  exact hinner

theorem quoteLexeme_inj (h : quoteLexeme v = quoteLexeme w) : v = w := by
  have hend : ([] : List Char).head? ≠ some '\'' := nofun
  have hv := operand?_quoteLexeme_append v hend
  rw [h, operand?_quoteLexeme_append w hend] at hv
  exact (congrArg Prod.fst (Option.some.inj hv)).symm

/-! ### Doubling -/

/-- The text with each `q` in it written twice. -/
def doubled (q : Char) (s : List Char) : List Char :=
  s.flatMap fun c => if c = q then [q, q] else [c]

/-- No quote is written for a backslash and no backslash for a quote, so doubling one and then the
other comes to what is written for each character. -/
theorem doubled_doubled (w : List Char) :
    doubled '\'' (doubled '\\' w) = w.flatMap lexemeChar := by
  unfold doubled
  rw [List.flatMap_assoc]
  congr 1
  funext c
  unfold lexemeChar
  split
  · rfl
  · exact List.flatMap_singleton _ c

/-- A lexeme is its word with the backslashes and then the quotes doubled, between two quotes.
In front of `:*` it is read as one operand, which is closed before `:*` and says the word; the
lexeme of a stem is such an operand and says the stem. So words are told apart by their lexemes. -/
theorem quoteLexeme_operand (w : List Char) :
    quoteLexeme w = '\'' :: doubled '\'' (doubled '\\' w) ++ ['\''] ∧
      operand? (quoteLexeme w ++ [':', '*']) = some (w, [':', '*']) ∧
      operand? (stemLexeme w) = some (Unicode.dropWhileEnd (· == '*') w, [':', '*']) ∧
      Function.Injective quoteLexeme := by
  have hcolon : [':', '*'].head? ≠ some '\'' := by decide
  refine ⟨?_, operand?_quoteLexeme_append w hcolon, ?_, fun _ _ => quoteLexeme_inj⟩
  · rw [doubled_doubled]
    rfl
  · exact operand?_quoteLexeme_append _ hcolon

/-- Neither the quote behind a backslash nor the backslash before the last quote changes what the
operand is. -/
example : operand? (quoteLexeme "o\\'ne\\".toList ++ ":*".toList) =
    some ("o\\'ne\\".toList, ":*".toList) := by
  decide

end PostSearch.Sql
