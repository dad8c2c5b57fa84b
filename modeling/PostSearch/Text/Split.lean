/-! # Splitting texts

A text is a list of characters. `splitAt sep` cuts it at every separator and `joinWith` puts
pieces together again; `dropFinalNewline` forgets one newline at the end. -/

namespace PostSearch.Text

/-- The pieces between the occurrences of `sep`; there is always at least one. -/
def splitAt (sep : Char) : List Char → List (List Char)
  | [] => [[]]
  | c :: s =>
    if c = sep then [] :: splitAt sep s
    else match splitAt sep s with
      | [] => [[c]]
      | piece :: pieces => (c :: piece) :: pieces

/-- The texts one after the other with `sep` between them. -/
def joinWith (sep : String) : List String → String
  | [] => ""
  | [s] => s
  | s :: t :: rest => s ++ sep ++ joinWith sep (t :: rest)

/-- The text without one newline at its end. -/
def dropFinalNewline : List Char → List Char
  | [] => []
  | ['\n'] => []
  | c :: s => c :: dropFinalNewline s

/-- The text without the non-overlapping occurrences of `word`, found from the left. The number
counts the characters of a found occurrence that are still to be left out. -/
def without (word : List Char) : Nat → List Char → List Char
  | _, [] => []
  | k + 1, _ :: s => without word k s
  | 0, c :: s =>
    if word.isPrefixOf (c :: s) then without word (word.length - 1) s
    else c :: without word 0 s

def contains (word : List Char) : List Char → Bool
  | [] => word.isEmpty
  | c :: s => word.isPrefixOf (c :: s) || contains word s

/-- A piece goes on up to the next separator. -/
theorem splitAt_ne_nil (sep : Char) (s : List Char) : splitAt sep s ≠ [] := by
  induction s with
  | nil => simp [splitAt]
  | cons c s ih =>
    unfold splitAt
    split
    · simp
    · split <;> simp

end PostSearch.Text
