import PostSearch.Libraries.Terminal.Cells
import PostSearch.Libraries.Terminal.Markup

/-! # Paragraphs for the terminal

The library for the console that the program runs with. A styled message is written as a paragraph:
its marks are carried out, tabs become spaces, and lines are broken between words where they would
get wider than the terminal. -/

namespace PostSearch.Terminal.Paragraph

open Unicode
open Cli.Console (Error)

/-- Width of a terminal of which nothing is known. -/
def standardWidth : Nat := 80

def tabWidth : Nat := 8

/-- Controls that a terminal would act on are left out: bell, backspace, and vertical moves. -/
def isActedOn (c : Char) : Bool :=
  c.toNat == 7 || c.toNat == 8 || (11 ≤ c.toNat && c.toNat ≤ 13)

/-! ### Tabs -/

/-- A part of a line that a tab ends: a space, and more up to the next tab stop. -/
def fillToStop (part : List Char) : List Char :=
  let filled := part ++ [' ']
  filled ++ List.replicate ((tabWidth - cellCount filled % tabWidth) % tabWidth) ' '

/-- The parts between tabs, all but the last one filled up to tab stops. -/
def fillParts : List (List Char) → List Char
  | [] => []
  | [part] => part
  | part :: parts => fillToStop part ++ fillParts parts

/-- The line with spaces for its tabs. -/
def expandTabs (line : List Char) : List Char :=
  fillParts (Text.splitAt '\t' line)

/-! ### Lines -/

/-- A line cut before every character that follows a blank and is none. -/
def cutWords : List Char → List (List Char)
  | [] => []
  | c :: s =>
    match cutWords s with
    | [] => [[c]]
    | word :: words =>
      if isBlank c && word.head?.any (!isBlank ·) then [c] :: word :: words
      else (c :: word) :: words

/-- The words of a line, each with the blanks after it; the first has those before it, too. -/
def wordsOf (line : List Char) : List (List Char) :=
  match cutWords line with
  | first :: second :: rest =>
    if first.all isBlank then (first ++ second) :: rest else first :: second :: rest
  | words => words

/-- Lines filled with words after the line begun, which takes `size` cells. A word that fits on no
line is chopped. -/
def fill (width : Nat) (line : List Char) (size : Nat) : List (List Char) → List (List Char)
  | [] => [line]
  | word :: words =>
    let needed := cellCount (dropWhileEnd isBlank word)
    if size + needed ≤ width then fill width (line ++ word) (size + cellCount word) words
    else if needed ≤ width then line :: fill width word (cellCount word) words
    else
      let chopped := chop width word
      let cut := if line = [] then chopped.dropWhile (· = []) else line :: chopped
      let last := cut.getLast?.getD []
      cut.dropLast ++ fill width last (cellCount last) words

/-- The line without blanks at its end, as many as its characters outnumber the cells of a line. -/
def trimEnd (width : Nat) (line : List Char) : List Char :=
  let blanks := line.length - (dropWhileEnd isBlank line).length
  line.take (line.length - min blanks (line.length - width))

/-- The lines that a line is broken into. -/
def broken (width : Nat) (line : List Char) : List (List Char) :=
  (fill width [] 0 (wordsOf line)).map fun l => cutTo width (trimEnd width l)

/-- A styled message as a paragraph with a line break at its end. -/
def write (width : Nat) (styled : String) : Except Error String := do
  let text ← Markup.plainText styled.toList
  let lines := (Text.splitAt '\n' (text.filter (!isActedOn ·))).flatMap fun line =>
    broken width (expandTabs line)
  return String.ofList (lines.flatMap (· ++ ['\n']))

/-! ### The terminal -/

/-- The variable for the width of the terminal. -/
def widthVariable : String := "COLUMNS"

/-- Width of the terminal: the variable for it counts if it holds digits, and is not zero. -/
def terminalWidth (environment : Settings.Environment) : Except NumeralError Nat :=
  let digits := ((environment.lookup widthVariable).getD "").toList
  if !digits.isEmpty && digits.all fun c => (digitValue? c).isSome then do
    let width ← Numeral.readDigits digits
    return if width = 0 then standardWidth else width
  else .ok standardWidth

instance terminal : Cli.Console where
  render environment styled := do
    write (← (terminalWidth environment).mapError .numeral) styled

end PostSearch.Terminal.Paragraph
