import PostSearch.Unicode.Alphanumeric
import PostSearch.Unicode.Blank

/-! # Words

`trim` keeps of a word what stands between its first and its last letter or numeral. A final `*`,
which asks for all words with this beginning, survives only behind a word that is long enough. -/

namespace PostSearch.Query

open Unicode

/-- The part of a text from its first to its last letter or numeral. -/
def core (s : List Char) : List Char :=
  stripWhere (fun c => !isAlphanumeric c) s

/-- The text ends with `*`, apart from blanks. -/
def hasStar (s : List Char) : Bool :=
  (strip s).getLast? == some '*'

/-- Strip a word; a `*` at its end is kept behind at least `minStem` characters. -/
def trim (minStem : Int) (s : List Char) : List Char :=
  if hasStar s ∧ core s ≠ [] ∧ minStem ≤ (core s).length then core s ++ ['*'] else core s

end PostSearch.Query
