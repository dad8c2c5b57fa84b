/-! # Contents of JSON strings

`unescape?` reads what stands between the quotes of a JSON string, strictly: only the escapes of the
format, and no raw control characters.

Texts are made of characters, and half a surrogate pair is none. A reader that keeps it gives a text
that no character string is; here the replacement character stands in its place. So texts with such
halves are not told from each other, nor from texts that have U+FFFD, and what is proved of texts
says nothing about the halves. Reading itself succeeds or fails in the same way. -/

namespace PostSearch.Text.JsonString

def hexValue? (c : Char) : Option Nat :=
  if '0' ≤ c ∧ c ≤ '9' then some (c.toNat - 48)
  else if 'a' ≤ c ∧ c ≤ 'f' then some (c.toNat - 87)
  else if 'A' ≤ c ∧ c ≤ 'F' then some (c.toNat - 55)
  else none

def unitValue? (a b c d : Char) : Option Nat := do
  return (← hexValue? a) * 4096 + (← hexValue? b) * 256 + (← hexValue? c) * 16 + (← hexValue? d)

/-- Character written by a one-letter escape. -/
def simpleEscape? : Char → Option Char
  | '"' => some '"'
  | '\\' => some '\\'
  | '/' => some '/'
  | 'b' => some '\x08'
  | 'f' => some '\x0c'
  | 'n' => some '\n'
  | 'r' => some '\r'
  | 't' => some '\t'
  | _ => none

/-- The first unit of a surrogate pair. -/
def isHighUnit (n : Nat) : Bool :=
  0xD800 ≤ n && n < 0xDC00

/-- The second unit of a surrogate pair. -/
def isLowUnit (n : Nat) : Bool :=
  0xDC00 ≤ n && n < 0xE000

/-- The character of a surrogate pair. -/
def pairChar (high low : Nat) : Char :=
  Char.ofNat (0x10000 + (high - 0xD800) * 1024 + (low - 0xDC00))

/-- The character of a single unit. For half a pair, which would be kept as it is if texts could hold
it, this is the replacement character. -/
def unitChar (n : Nat) : Char :=
  if isHighUnit n || isLowUnit n then '\uFFFD' else Char.ofNat n

/-- Contents of a JSON string, read from the text between its quotes. -/
def unescape? : List Char → Option (List Char)
  | [] => some []
  | '\\' :: 'u' :: a :: b :: c :: d :: '\\' :: 'u' :: e :: f :: g :: h :: s => do
    let high ← unitValue? a b c d
    let low ← unitValue? e f g h
    if isHighUnit high && isLowUnit low then
      return pairChar high low :: (← unescape? s)
    else
      return unitChar high :: (← unescape? ('\\' :: 'u' :: e :: f :: g :: h :: s))
  | '\\' :: 'u' :: a :: b :: c :: d :: s => do
    return unitChar (← unitValue? a b c d) :: (← unescape? s)
  | '\\' :: e :: s => do
    return (← simpleEscape? e) :: (← unescape? s)
  | c :: s =>
    if c = '"' ∨ c = '\\' ∨ c.toNat < 0x20 then none else (unescape? s).map (c :: ·)

end PostSearch.Text.JsonString
