import PostSearch.Unicode.Casing
import PostSearch.Unicode.LowercaseTable

/-! # Lower case

`lowercase` maps a whole text to lower case. Two letters need more than the table: the capital
dotted `İ` becomes an `i` with a dot above, and a capital sigma that ends its word becomes a final
sigma. -/

namespace PostSearch.Unicode

/-- Lower-case form of a single character, outside any word. -/
def lowercaseChar (c : Char) : List Char :=
  if c.toNat = 0x0130 then ['i', Char.ofNat 0x0307]
  else match imageInRuns c.toNat lowercaseRuns with
    | some n => [Char.ofNat n]
    | none => [c]

/-- The nearest character that is not looked through is a cased letter. -/
def meetsCased : List Char → Bool
  | [] => false
  | c :: s => if isCaseIgnorable c then meetsCased s else isCased c

/-- A sigma between `before` (nearest first) and `after` ends its word: a cased letter comes before
it and none after it. -/
def isFinalSigma (before after : List Char) : Bool :=
  meetsCased before && !meetsCased after

/-- Lower case of a text whose characters `before` (nearest first) were read already. -/
def lowercaseAfter (before : List Char) : List Char → List Char
  | [] => []
  | c :: s =>
    (if c.toNat = 0x03A3 ∧ isFinalSigma before s then [Char.ofNat 0x03C2] else lowercaseChar c) ++
      lowercaseAfter (c :: before) s

def lowercase (s : List Char) : List Char :=
  lowercaseAfter [] s

/-- On ASCII the table is the usual map. -/
theorem lowercaseChar_ascii :
    ∀ n, n < 128 → lowercaseChar (Char.ofNat n) = [(Char.ofNat n).toLower] := by
  decide +kernel

end PostSearch.Unicode
