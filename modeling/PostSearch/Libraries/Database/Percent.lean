import PostSearch.Text.JsonString
import PostSearch.Text.Literal
import PostSearch.Libraries.Database.Utf8

/-! # Percent coding

Characters that an address cannot hold as they are stand in it as their UTF-8 bytes, each written
as a percent sign and two hexadecimal digits. -/

namespace PostSearch.Text.Percent

def decodeBytes : List Char → List UInt8
  | '%' :: a :: b :: s =>
    match JsonString.hexValue? a, JsonString.hexValue? b with
    | some x, some y => UInt8.ofNat (x * 16 + y) :: decodeBytes s
    | _, _ => Utf8.bytesOf '%' ++ decodeBytes (a :: b :: s)
  | c :: s => Utf8.bytesOf c ++ decodeBytes s
  | [] => []

/-- The text that a coded one stands for. -/
def decode (s : List Char) : List Char :=
  Utf8.decode (decodeBytes s)

/-- Characters that never need coding. -/
def isUnreserved (c : Char) : Bool :=
  c.isAlphanum || c == '_' || c == '.' || c == '-' || c == '~'

def encodeByte (b : UInt8) : List Char :=
  '%' :: (hexDigits 2 b.toNat).map Char.toUpper

/-- The text with everything coded that is neither unreserved nor in `safe`. -/
def encode (safe : List Char) (s : List Char) : List Char :=
  s.flatMap fun c =>
    if isUnreserved c || safe.contains c then [c] else (Utf8.bytesOf c).flatMap encodeByte

end PostSearch.Text.Percent
