import PostSearch.Unicode.CodeRange

/-! # Blanks

The characters that separate words, and `strip`, which removes them from both ends of a text. -/

namespace PostSearch.Unicode

/-- Blanks, ascending: controls that move the carriage, separators, and spaces of every width. -/
def blankRanges : List CodeRange := [
  ⟨0x09, 0x0D⟩, ⟨0x1C, 0x20⟩, ⟨0x85, 0x85⟩, ⟨0xA0, 0xA0⟩, ⟨0x1680, 0x1680⟩, ⟨0x2000, 0x200A⟩,
  ⟨0x2028, 0x2029⟩, ⟨0x202F, 0x202F⟩, ⟨0x205F, 0x205F⟩, ⟨0x3000, 0x3000⟩]

/-- The character separates words. -/
def isBlank (c : Char) : Bool :=
  inRanges c.toNat blankRanges

/-- The text without the trailing characters that satisfy `p`. -/
def dropWhileEnd (p : Char → Bool) (s : List Char) : List Char :=
  (s.reverse.dropWhile p).reverse

/-- The text without the characters at both ends that satisfy `p`. -/
def stripWhere (p : Char → Bool) (s : List Char) : List Char :=
  dropWhileEnd p (s.dropWhile p)

/-- The text without the blanks at both ends. -/
def strip (s : List Char) : List Char :=
  stripWhere isBlank s

end PostSearch.Unicode
