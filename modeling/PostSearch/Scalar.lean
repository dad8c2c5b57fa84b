import PostSearch.Text.Numeral

/-! # Scalars

The simple values that lists, statements and result rows hold: texts and whole numbers. A text and a
number are never equal, whatever they look like. -/

namespace PostSearch

/-- A text or a whole number. -/
inductive Scalar where
  | text (s : String)
  | number (n : Int)
deriving DecidableEq, Repr

/-- The value as messages show it, texts between quotes. -/
def Scalar.literal : Scalar → String
  | .text s => String.ofList (Text.quote s.toList)
  | .number n => String.ofList (Numeral.intDigits n)

/-- The value as a whole number, if its text is a numeral. -/
def Scalar.toInt : Scalar → Except NumeralError Int
  | .text s => Numeral.readInt 10 s.toList
  | .number n => .ok n

end PostSearch
