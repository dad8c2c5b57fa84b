import PostSearch.Text.Literal
import PostSearch.Unicode.Blank
import PostSearch.Unicode.Digit

/-! # Numerals

`readInt` reads a whole number as users type it: blanks around it, one sign, the digits of any
script, single underscores between digits. `showInt` writes one in ASCII. Between numbers and
decimal numerals nothing longer than `digitLimit` digits is converted in either direction. -/

namespace PostSearch

open Unicode

/-- Why a numeral and a number do not correspond. -/
inductive NumeralError where
  /-- The text is no numeral of the radix. -/
  | malformed (radix : Nat) (text : List Char)
  /-- The numeral read has that many digits, more than the limit. -/
  | tooLong (digits : Nat)
  /-- The number to be written has more digits than the limit. -/
  | tooLarge
deriving DecidableEq, Repr

namespace Numeral

/-- Most decimal digits of a number that is read or written. -/
def digitLimit : Nat := 4300

/-- Value of an ASCII digit of the radix, letters of both cases standing for ten and more. -/
def digitOf? (radix : Nat) (c : Char) : Option Nat :=
  let value :=
    if '0' ≤ c ∧ c ≤ '9' then c.toNat - 48
    else if 'a' ≤ c ∧ c ≤ 'z' then c.toNat - 87
    else if 'A' ≤ c ∧ c ≤ 'Z' then c.toNat - 55
    else radix
  if value < radix then some value else none

/-- Number with the given digits, most significant first. -/
def ofDigits (radix : Nat) (digits : List Nat) : Nat :=
  digits.foldl (fun n d => n * radix + d) 0

/-- Characters outside ASCII stand for the space or the ASCII digit that they amount to. -/
def plainChar (c : Char) : Char :=
  if c.toNat < 128 then c
  else if isBlank c then ' '
  else match digitValue? c with
    | some d => Nat.digitChar d
    | none => c

/-- A blank around a numeral. -/
def isSpace (c : Char) : Bool :=
  c == ' ' || (9 ≤ c.toNat && c.toNat ≤ 13)

def isInner (radix : Nat) (c : Char) : Bool :=
  c == '_' || (digitOf? radix c).isSome

/-- Digits with single underscores between them: no underscore at an end or beside another. -/
def wellSeparated : List Char → Bool
  | [] => false
  | '_' :: _ => false
  | [_] => true
  | _ :: '_' :: s => wellSeparated s
  | _ :: s => wellSeparated s

/-- Leave out a sign; the number is negative after a minus. -/
def takeSign : List Char → Bool × List Char
  | '+' :: s => (false, s)
  | '-' :: s => (true, s)
  | s => (false, s)

/-- Leave out the mark `0x` of a hexadecimal numeral, with one underscore after it. -/
def dropHexMark : List Char → List Char
  | '0' :: x :: s =>
    if x = 'x' ∨ x = 'X' then (match s with | '_' :: t => t | t => t) else '0' :: x :: s
  | s => s

/-- Read a whole number in radix ten or sixteen. -/
def readInt (radix : Nat) (text : List Char) : Except NumeralError Int :=
  let (negative, unsigned) := takeSign ((text.map plainChar).dropWhile isSpace)
  let body := if radix = 16 then dropHexMark unsigned else unsigned
  let inner := body.takeWhile (isInner radix)
  let digits := inner.filterMap (digitOf? radix)
  if !wellSeparated inner then .error (.malformed radix text)
  else if radix = 10 ∧ digitLimit < digits.length then .error (.tooLong digits.length)
  else if !(body.dropWhile (isInner radix)).all isSpace then .error (.malformed radix text)
  else
    let n : Int := ofDigits radix digits
    .ok (if negative then -n else n)

/-- Read a run of decimal digits of any script. -/
def readDigits (s : List Char) : Except NumeralError Nat :=
  if digitLimit < s.length then .error (.tooLong s.length)
  else .ok (ofDigits 10 (s.filterMap digitValue?))

def natDigits (n : Nat) : List Char :=
  Nat.toDigits 10 n

def intDigits (n : Int) : List Char :=
  if n < 0 then '-' :: natDigits n.natAbs else natDigits n.natAbs

/-- The numeral of the number would have more digits than the limit. -/
def isTooLarge (n : Int) : Bool :=
  digitLimit < (natDigits n.natAbs).length

/-- The decimal numeral of a whole number that is not too large for one. -/
def showInt (n : Int) : Except NumeralError (List Char) :=
  if isTooLarge n then .error .tooLarge else .ok (intDigits n)

/-- A decimal numeral of at least `width` digits, filled up with zeros. -/
def padded (width n : Nat) : List Char :=
  List.replicate (width - (natDigits n).length) '0' ++ natDigits n

end Numeral

/-- Wording of a numeral error; no more than the first 200 characters of the literal are shown. -/
def NumeralError.message : NumeralError → String
  | .malformed radix text =>
    "invalid literal for int() with base " ++ toString radix ++ ": " ++
      String.ofList ((Text.quote text).take 200)
  | .tooLong digits =>
    "Exceeds the limit (" ++ toString Numeral.digitLimit ++
      " digits) for integer string conversion: value has " ++ toString digits ++
      " digits; use sys.set_int_max_str_digits() to increase the limit"
  | .tooLarge =>
    "Exceeds the limit (" ++ toString Numeral.digitLimit ++
      " digits) for integer string conversion; " ++
      "use sys.set_int_max_str_digits() to increase the limit"

end PostSearch
