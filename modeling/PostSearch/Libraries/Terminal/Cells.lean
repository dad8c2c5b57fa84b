import PostSearch.Libraries.Terminal.CellWidth

/-! # Cells

A line on a terminal takes as many cells as its characters together. Two characters change this: the
joiner hides the character after it, and the selector of pictures widens the character before it.
Lines are cut between graphemes only, a grapheme being a character with all that adds nothing of its
own after it. -/

namespace PostSearch.Terminal

open Unicode

/-- The joiner, which shows two characters as one. -/
def joiner : Char := '\u200D'

/-- The selector, which asks for the picture of the character before it. -/
def selector : Char := '\uFE0F'

/-- Cells of a text after `last`, the last character that took cells and was not yet widened. -/
def cellCountAfter (last : Option Char) : List Char → Nat
  | [] => 0
  | c :: s =>
    if c = joiner then
      match s with
      | [] => 0
      | _ :: t => cellCountAfter last t
    else if c = selector then (if last.any isWidened then 1 else 0) + cellCountAfter none s
    else if cellWidth c = 0 then cellCountAfter last s
    else cellWidth c + cellCountAfter (some c) s

def cellCount (s : List Char) : Nat :=
  cellCountAfter none s

/-- A part of a line that is not cut. -/
structure Grapheme where
  chars : List Char
  cells : Nat
deriving DecidableEq, Repr

/-- The grapheme with more characters. -/
def Grapheme.add (g : Grapheme) (s : List Char) (cells : Nat) : Grapheme :=
  ⟨g.chars ++ s, g.cells + cells⟩

/-- The graphemes of a text after the grapheme `g`; `last` is the last character that took cells and
was not yet widened. -/
def graphemesAfter (g : Grapheme) (last : Option Char) : List Char → List Grapheme
  | [] => [g]
  | c :: s =>
    if c = joiner then
      match s with
      | [] => [g.add [c] 0]
      | d :: t => graphemesAfter (g.add [c, d] 0) last t
    else if c = selector then
      if last.any isWidened then graphemesAfter (g.add [c] 1) none s
      else graphemesAfter (g.add [c] 0) last s
    else if cellWidth c = 0 then graphemesAfter (g.add [c] 0) last s
    else g :: graphemesAfter ⟨[c], cellWidth c⟩ (some c) s

def graphemes : List Char → List Grapheme
  | [] => []
  | c :: s =>
    if c = joiner ∨ c = selector ∨ cellWidth c = 0 then graphemesAfter ⟨[c], 0⟩ none s
    else graphemesAfter ⟨[c], cellWidth c⟩ (some c) s

/-- Graphemes put together to lines of at most `width` cells, after the line begun, which takes
`size` cells. A line without cells does not count at the end. -/
def gather (width : Nat) (line : List Char) (size : Nat) : List Grapheme → List (List Char)
  | [] => if size = 0 then [] else [line]
  | g :: gs =>
    if width < size + g.cells then line :: gather width g.chars g.cells gs
    else gather width (line ++ g.chars) (size + g.cells) gs

/-- The text cut into lines of at most `width` cells. -/
def chop (width : Nat) (s : List Char) : List (List Char) :=
  gather width [] 0 (graphemes s)

/-- The graphemes that fit on `room` cells; a space stands for the half of one that fits partly. -/
def crop (room : Nat) : List Grapheme → List Char
  | [] => []
  | g :: gs =>
    if room = 0 then []
    else if room < g.cells then [' ']
    else g.chars ++ crop (room - g.cells) gs

/-- The text cut down to `width` cells. -/
def cutTo (width : Nat) (s : List Char) : List Char :=
  if cellCount s ≤ width then s else crop width (graphemes s)

end PostSearch.Terminal
