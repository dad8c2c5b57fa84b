import PostSearch.Unicode.CombiningClass
import PostSearch.Unicode.Composites
import PostSearch.Unicode.Decomposition.Forms
import PostSearch.Unicode.Decomposition.Ideographs
import PostSearch.Unicode.Decomposition.Letters
import PostSearch.Unicode.Decomposition.Runs
import PostSearch.Unicode.Decomposition.Squares
import PostSearch.Unicode.Decomposition.Supplement
import PostSearch.Unicode.Decomposition.Symbols

/-! # Compatibility composition

`compose ∘ order ∘ decompose` brings a text to its compatibility composed form (NFKC): every
character is replaced by what it fully decomposes into, runs of marks are sorted by combining class,
and then each starter absorbs the marks after it that it has a composite with. Hangul syllables are
taken apart and put together by arithmetic. -/

namespace PostSearch.Unicode

/-! ### Hangul syllables -/

/-- First syllable; syllables are numbered by leading consonant, vowel and trailing consonant. -/
def hangulBase : Nat := 0xAC00

/-- First leading consonant. -/
def leadBase : Nat := 0x1100

/-- First vowel. -/
def vowelBase : Nat := 0x1161

/-- One before the first trailing consonant: number zero means none. -/
def tailBase : Nat := 0x11A7

def leadCount : Nat := 19

def vowelCount : Nat := 21

/-- Number of trailing consonants, counting "none". -/
def tailCount : Nat := 28

def hangulLetters? (c : Nat) : Option (List Nat) :=
  if hangulBase ≤ c ∧ c < hangulBase + leadCount * vowelCount * tailCount then
    let n := c - hangulBase
    let lead := leadBase + n / (vowelCount * tailCount)
    let vowel := vowelBase + n % (vowelCount * tailCount) / tailCount
    if n % tailCount = 0 then some [lead, vowel] else some [lead, vowel, tailBase + n % tailCount]
  else none

/-- Syllable of a leading consonant and a vowel, or of a syllable without trailing consonant and a
trailing consonant. -/
def hangulSyllable? (first second : Nat) : Option Nat :=
  if leadBase ≤ first ∧ first < leadBase + leadCount ∧
      vowelBase ≤ second ∧ second < vowelBase + vowelCount then
    some (hangulBase + ((first - leadBase) * vowelCount + (second - vowelBase)) * tailCount)
  else if hangulBase ≤ first ∧ first < hangulBase + leadCount * vowelCount * tailCount ∧
      (first - hangulBase) % tailCount = 0 ∧ tailBase < second ∧ second < tailBase + tailCount then
    some (first + (second - tailBase))
  else none

/-! ### The three steps -/

/-- What a code point stands for, if not for itself. -/
def decomposition? (c : Nat) : Option (List Nat) :=
  hangulLetters? c <|> (imageInRuns c decompositionRuns).map ([·]) <|>
    expansionOf? c letterExpansions <|> expansionOf? c symbolExpansions <|>
    expansionOf? c squareExpansions <|> expansionOf? c ideographExpansions <|>
    expansionOf? c formExpansions <|> expansionOf? c supplementExpansions

/-- What a character fully decomposes into. -/
def decomposeChar (c : Char) : List Char :=
  match decomposition? c.toNat with
  | some image => image.map Char.ofNat
  | none => [c]

def decompose (s : List Char) : List Char :=
  s.flatMap decomposeChar

/-- Put a character in front of an ordered text: a mark moves behind the marks of a smaller class.
-/
def orderInsert (c : Char) : List Char → List Char
  | [] => [c]
  | d :: s =>
    if 0 < combiningClass d ∧ combiningClass d < combiningClass c then d :: orderInsert c s
    else c :: d :: s

/-- Every run of marks sorted by combining class; marks of one class keep their order. -/
def order (s : List Char) : List Char :=
  s.foldr orderInsert []

/-- The character that stands for `first` followed by `second`. -/
def composite? (first second : Char) : Option Char :=
  (hangulSyllable? first.toNat second.toNat <|>
    compositeIn first.toNat second.toNat composites).map Char.ofNat

/-- Compose a text that goes on after `starter` and the marks `passed` (last first), which it did
not absorb. A character whose class is not above that of the last passed mark is blocked. -/
def composeAfter (starter : Char) (passed : List Char) : List Char → List Char
  | [] => starter :: passed.reverse
  | c :: s =>
    let blocked := match passed with
      | [] => false
      | d :: _ => combiningClass c ≤ combiningClass d
    match if blocked then none else composite? starter c with
    | some p => composeAfter p passed s
    | none =>
      if combiningClass c = 0 then starter :: passed.reverse ++ composeAfter c [] s
      else composeAfter starter (c :: passed) s

/-- Each starter absorbs the following characters that it has a composite with. -/
def compose : List Char → List Char
  | [] => []
  | c :: s => composeAfter c [] s

/-- Compatibility composed form of a text. -/
def compatibilityForm (s : List Char) : List Char :=
  compose (order (decompose s))

/-- ASCII characters stand for themselves. -/
theorem decomposition?_ascii : ∀ n, n < 128 → decomposition? n = none := by
  decide +kernel

end PostSearch.Unicode
