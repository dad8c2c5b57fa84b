import PostSearch.Libraries.Terminal.Colour

/-! # Styles

A style is written in words: attributes such as `bold`, which `not` takes away, a colour, a colour
behind `on` for the ground, and an address behind `link`. Different words may mean one style, so
styles are compared in their normal form; words that mean no style are their own normal form, but
for blanks around them and letter case. -/

namespace PostSearch.Terminal

open Unicode

/-! ### Attributes -/

/-- What letters look like, apart from their colours. -/
inductive Attribute where
  | bold
  | dim
  | italic
  | underline
  | blink
  | fastBlink
  | reverse
  | conceal
  | strike
  | doubleUnderline
  | frame
  | encircle
  | overline
deriving DecidableEq, Repr

namespace Attribute

/-- All attributes, in the order of the normal form. -/
def all : List Attribute :=
  [.bold, .dim, .italic, .underline, .blink, .fastBlink, .reverse, .conceal, .strike,
    .doubleUnderline, .frame, .encircle, .overline]

/-- Spellings of the attribute; the first is the one of the normal form. -/
def spellings : Attribute → List String
  | .bold => ["bold", "b"]
  | .dim => ["dim", "d"]
  | .italic => ["italic", "i"]
  | .underline => ["underline", "u"]
  | .blink => ["blink"]
  | .fastBlink => ["blink2"]
  | .reverse => ["reverse", "r"]
  | .conceal => ["conceal", "c"]
  | .strike => ["strike", "s"]
  | .doubleUnderline => ["underline2", "uu"]
  | .frame => ["frame"]
  | .encircle => ["encircle"]
  | .overline => ["overline", "o"]

/-- The attribute of a spelling. -/
def ofWord? (word : List Char) : Option Attribute :=
  all.find? fun a => a.spellings.any (·.toList = word)

def text (a : Attribute) : String :=
  a.spellings.headD ""

end Attribute

/-! ### Styles -/

/-- A style. -/
structure Style where
  /-- Attributes that are asked for, or taken away; of several for one of them the first counts. -/
  attributes : List (Attribute × Bool)
  colour : Option (List Char)
  ground : Option (List Char)
  link : Option (List Char)
deriving DecidableEq, Repr

namespace Style

/-- The style that changes nothing. -/
def none : Style :=
  ⟨[], .none, .none, .none⟩

/-- The words between blanks. -/
def wordsOf (s : List Char) : List (List Char) :=
  (Text.splitAt ' ' (s.map fun c => if isBlank c then ' ' else c)).filter (· ≠ [])

/-- Read the words of a style, adding to what was read before them. Nothing results if they mean
none; it fails if a colour is mixed from something else than numbers. -/
def read? (style : Style) : List (List Char) → Except NumeralError (Option Style)
  | [] => .ok (some style)
  | word :: rest =>
    let w := lowercase word
    if w = "on".toList then
      match rest with
      | [] => .ok Option.none
      | colour :: rest => do
        if ← isColour (lowercase colour) then
          read? { style with ground := some (lowercase colour) } rest
        else return Option.none
    else if w = "not".toList then
      match rest with
      | [] => .ok Option.none
      | word :: rest =>
        match Attribute.ofWord? word with
        | some a => read? { style with attributes := (a, false) :: style.attributes } rest
        | Option.none => .ok Option.none
    else if w = "link".toList then
      match rest with
      | [] => .ok Option.none
      | address :: rest => read? { style with link := some address } rest
    else
      match Attribute.ofWord? w with
      | some a => read? { style with attributes := (a, true) :: style.attributes } rest
      | Option.none => do
        if ← isColour w then read? { style with colour := some w } rest else return Option.none

def words (style : Style) : List String :=
  (Attribute.all.filterMap fun a => (style.attributes.lookup a).map fun asked =>
    if asked then a.text else "not " ++ a.text) ++
  (style.colour.map String.ofList).toList ++
  (style.ground.map fun colour => "on " ++ String.ofList colour).toList ++
  (style.link.map fun address => "link " ++ String.ofList address).toList

def text (style : Style) : String :=
  if style.words.isEmpty then "none" else Text.joinWith " " style.words

end Style

/-- The normal form of the words of a style. -/
def normalStyle (s : List Char) : Except NumeralError (List Char) :=
  if strip s = "none".toList then .ok "none".toList
  else do
    match ← Style.none.read? (Style.wordsOf s) with
    | some style => return style.text.toList
    | none => return lowercase (strip s)

end PostSearch.Terminal
