/-! # Reading UTF-8

`decode` reads characters from their UTF-8 bytes and never fails: where bytes do not belong to a
character, each longest run of them that a character may begin with becomes one replacement
character. It takes one byte at a time; what was read of a character that is not complete yet is
kept as the bytes that are still missing and the range that the next of them is in. -/

namespace PostSearch.Text.Utf8

def bytesOf (c : Char) : List UInt8 :=
  c.toString.toUTF8.toList

/-- Stands for bytes that are no character. -/
def replacement : Char := '\ufffd'

/-- A character that some bytes are missing of. -/
structure Begun where
  /-- The bits of the code that were read. -/
  bits : Nat
  /-- Bytes that are missing after the next one. -/
  later : Nat
  /-- Range of the next byte. -/
  least : Nat
  greatest : Nat
deriving DecidableEq, Repr

/-- The characters that are complete after a byte, and the one that is begun. -/
abbrev State := List Char × Option Begun

/-- The first byte of a character. The ranges of the next one leave out codes that take fewer bytes,
surrogates, and codes above the last one. -/
def first (b : Nat) : State :=
  if b < 0x80 then ([Char.ofNat b], none)
  else if 0xC2 ≤ b ∧ b ≤ 0xDF then ([], some ⟨b - 0xC0, 0, 0x80, 0xBF⟩)
  else if 0xE0 ≤ b ∧ b ≤ 0xEF then
    ([], some ⟨b - 0xE0, 1, if b = 0xE0 then 0xA0 else 0x80, if b = 0xED then 0x9F else 0xBF⟩)
  else if 0xF0 ≤ b ∧ b ≤ 0xF4 then
    ([], some ⟨b - 0xF0, 2, if b = 0xF0 then 0x90 else 0x80, if b = 0xF4 then 0x8F else 0xBF⟩)
  else ([replacement], none)

def next (begun : Option Begun) (b : Nat) : State :=
  match begun with
  | none => first b
  | some p =>
    if b < p.least ∨ p.greatest < b then (replacement :: (first b).1, (first b).2)
    else
      let bits := p.bits * 64 + (b - 0x80)
      match p.later with
      | 0 => ([Char.ofNat bits], none)
      | later + 1 => ([], some ⟨bits, later, 0x80, 0xBF⟩)

/-- The characters of the bytes after a character that was begun. -/
def decodeFrom (begun : Option Begun) : List UInt8 → List Char
  | [] => if begun.isSome then [replacement] else []
  | b :: bytes =>
    let (complete, begun) := next begun b.toNat
    complete ++ decodeFrom begun bytes

def decode (bytes : List UInt8) : List Char :=
  decodeFrom none bytes

end PostSearch.Text.Utf8
