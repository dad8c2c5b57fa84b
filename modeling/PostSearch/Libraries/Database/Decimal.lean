import PostSearch.Text.Numeral

/-! # Decimals

A decimal is the numeral of a number that need not be whole: digits with a point and an exponent,
or the word for something that no digits stand for. `isDecimal` tells decimals from other texts. -/

namespace PostSearch.Numeral

open Unicode (stripWhere)

/-- Words for what no digits stand for. -/
def decimalWords : List (List Char) :=
  ["inf".toList, "infinity".toList, "nan".toList]

/-- Digits with single underscores between them, or nothing at all. -/
def isDigitsOrNothing (s : List Char) : Bool :=
  s.isEmpty || wellSeparated s

/-- The end of a decimal after its digits: nothing or an exponent. -/
def isExponent : List Char → Bool
  | [] => true
  | e :: s =>
    let digits := (takeSign s).2
    (e == 'e' || e == 'E') && digits.all (isInner 10) && wellSeparated digits

/-- A decimal of digits, without sign and blanks. -/
def isDigital (s : List Char) : Bool :=
  let whole := s.takeWhile (isInner 10)
  let (fraction, rest) := match s.dropWhile (isInner 10) with
    | '.' :: t => (t.takeWhile (isInner 10), t.dropWhile (isInner 10))
    | t => ([], t)
  !(whole ++ fraction).isEmpty && isDigitsOrNothing whole && isDigitsOrNothing fraction &&
    isExponent rest

def isDecimal (text : List Char) : Bool :=
  let (_, unsigned) := takeSign (stripWhere isSpace (text.map plainChar))
  decimalWords.contains (unsigned.map Char.toLower) || isDigital unsigned

end PostSearch.Numeral
