import PostSearch.Text.Numeral
import PostSearch.Text.Split

/-! # UUIDs

A UUID is a number of 128 bits. `parse` reads it leniently: the words `urn:` and `uuid:` and all
hyphens are left out, braces around it are dropped, and the 32 characters that remain are read as a
hexadecimal numeral. `format` writes the canonical form, lower case and hyphenated; `isCanonical`
holds of the texts that have this form already. -/

namespace PostSearch.Uuid

open Text Unicode

/-- Why a text is no UUID. -/
inductive Error where
  /-- There are not 32 characters left to read. -/
  | badlyFormed
  /-- What is left is no hexadecimal numeral. -/
  | numeral (e : NumeralError)
deriving DecidableEq, Repr

def Error.message : Error → String
  | .badlyFormed => "badly formed hexadecimal UUID string"
  | .numeral e => e.message

/-- The characters of a UUID without its decorations. -/
def bareDigits (text : List Char) : List Char :=
  (stripWhere (fun c => c == '{' || c == '}')
    (without "uuid:".toList 0 (without "urn:".toList 0 text))).filter (· ≠ '-')

def parse (text : List Char) : Except Error Nat :=
  let digits := bareDigits text
  if digits.length = 32 then
    match Numeral.readInt 16 digits with
    | .ok n => .ok n.toNat
    | .error e => .error (.numeral e)
  else .error .badlyFormed

/-- The canonical form: 32 digits in groups of 8, 4, 4, 4 and 12. -/
def format (n : Nat) : List Char :=
  let digits := hexDigits 32 n
  let group (start length : Nat) := (digits.drop start).take length
  group 0 8 ++ '-' :: group 8 4 ++ '-' :: group 12 4 ++ '-' :: group 16 4 ++ '-' :: group 20 12

/-- The text is a UUID in canonical form. -/
def isCanonical (text : List Char) : Bool :=
  text.length == 36 &&
    match parse text with
    | .ok n => format n == text
    | .error _ => false

/-- A canonical text is what its own number is written as. -/
theorem isCanonical_iff {text : List Char} :
    isCanonical text = true ↔ text.length = 36 ∧ ∃ n, parse text = .ok n ∧ format n = text := by
  unfold isCanonical
  cases h : parse text <;> simp

end PostSearch.Uuid
