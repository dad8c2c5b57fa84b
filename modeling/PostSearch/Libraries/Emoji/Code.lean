import PostSearch.Libraries.Emoji.AToC
import PostSearch.Libraries.Emoji.DToF
import PostSearch.Libraries.Emoji.GToM
import PostSearch.Libraries.Emoji.NToS
import PostSearch.Libraries.Emoji.TToZ
import PostSearch.Text.JsonString
import PostSearch.Text.Numeral
import PostSearch.Text.Split
import PostSearch.Unicode.Lowercase

/-! # Codes for pictures

In a message a name between colons stands for a picture, `:cat:` for a cat. The name may end in
`-emoji` or `-text`, which asks for the colourful or for the plain form. Names that mean nothing
stay as they are, with both of their colons. -/

namespace PostSearch.Emoji

open Unicode

/-! ### Names -/

/-- The character with the given hexadecimal code. -/
def charOf (digits : List Char) : Char :=
  Char.ofNat (Numeral.ofDigits 16 (digits.filterMap Text.JsonString.hexValue?))

/-- The characters of a picture, whose codes have hyphens between them. -/
def pictureOf (codes : List Char) : List Char :=
  (Text.splitAt '-' codes).map charOf

/-- The pairs of names and pictures in words that are names and codes in turn. -/
def pairs : List (List Char) → List (List Char × List Char)
  | name :: codes :: rest => (name, pictureOf codes) :: pairs rest
  | _ => []

def table : List (List Char × List Char) :=
  (rowsAToC ++ rowsDToF ++ rowsGToM ++ rowsNToS ++ rowsTToZ).flatMap fun row =>
    pairs (Text.splitAt ' ' row.toList)

/-- The picture of a name in any letter case. -/
def picture? (name : List Char) : Option (List Char) :=
  table.lookup (lowercase name)

/-! ### Codes in a text -/

/-- Endings of a code, with the selectors of the forms that they ask for. -/
def forms : List (List Char × Char) :=
  [("-emoji".toList, '\uFE0F'), ("-text".toList, '\uFE0E')]

/-- What stands between the colons: a name, and the selector of a form. -/
def nameAndForm (code : List Char) : List Char × List Char :=
  match forms.find? fun form => form.1.isSuffixOf code with
  | some (ending, selector) => (code.take (code.length - ending.length), [selector])
  | none => (code, [])

/-- The picture that a code stands for. -/
def meaning? (code : List Char) : Option (List Char) :=
  let (name, form) := nameAndForm code
  (picture? name).map (· ++ form)

def isCodeChar (c : Char) : Bool :=
  c != ':' && !isBlank c

/-- The text with its codes replaced by pictures. The number counts the characters of a code that
are still to be left out. -/
def expandFrom : Nat → List Char → List Char
  | _, [] => []
  | k + 1, _ :: s => expandFrom k s
  | 0, c :: s =>
    let code := s.takeWhile isCodeChar
    if c = ':' ∧ (s.dropWhile isCodeChar).head? = some ':' then
      (meaning? code).getD (':' :: code ++ [':']) ++ expandFrom (code.length + 1) s
    else c :: expandFrom 0 s

/-- The text with its codes replaced by pictures. -/
def expand (s : List Char) : List Char :=
  expandFrom 0 s

end PostSearch.Emoji
