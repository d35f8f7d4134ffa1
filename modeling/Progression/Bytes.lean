-- Bytes and the characters they encode. Bytes that break off in the middle
-- of a character stay in its place, all of them as one.
import Progression.Json.Text

namespace Progression

namespace Utf8

/-- The bytes of a text. -/
def encode (s : String) : List UInt8 := s.toUTF8.toList

/-- The least and the greatest byte that may come next. -/
abbrev Bounds := UInt8 × UInt8

/-- A byte that follows the first byte of a character. -/
def tail : Bounds := (0x80, 0xBF)

/-- The number in the first byte of a character, and the bytes that may follow it. The bounds of
the second byte leave out what fewer bytes can encode, the halves of pairs and what is past the last
character. -/
def lead? (a : UInt8) : Option (Nat × List Bounds) :=
  if a ≤ 0x7F then some (a.toNat, [])
  else if 0xC2 ≤ a ∧ a ≤ 0xDF then some (a.toNat - 0xC0, [tail])
  else if a = 0xE0 then some (0, [(0xA0, 0xBF), tail])
  else if a = 0xED then some (0xD, [(0x80, 0x9F), tail])
  else if 0xE1 ≤ a ∧ a ≤ 0xEF then some (a.toNat - 0xE0, [tail, tail])
  else if a = 0xF0 then some (0, [(0x90, 0xBF), tail, tail])
  else if 0xF1 ≤ a ∧ a ≤ 0xF3 then some (a.toNat - 0xF0, [tail, tail, tail])
  else if a = 0xF4 then some (4, [(0x80, 0x8F), tail, tail])
  else none

/-- The character whose first bytes make up `n`, and how many of the bytes belong to it. If they
break off, those that fit so far are no character. -/
def follow (n : Nat) : List Bounds → List UInt8 → Json.Glyph × Nat
  | [], _ => (some (Char.ofNat n), 0)
  | _ :: _, [] => (none, 0)
  | bounds :: rest, b :: bytes =>
    if bounds.1 ≤ b ∧ b ≤ bounds.2 then
      let (glyph, more) := follow (64 * n + (b.toNat - 0x80)) rest bytes
      (glyph, more + 1)
    else (none, 0)

/-- The character at the front of bytes and the number of bytes behind its first. -/
def glyphAt (a : UInt8) (rest : List UInt8) : Json.Glyph × Nat :=
  match lead? a with
  | some (n, bounds) => follow n bounds rest
  | none => (none, 0)

/-- Reads bytes while `skip` of them still belong to the last character; `read` is kept last
glyph first. -/
def glyphsFrom (read : List Json.Glyph) : (skip : Nat) → List UInt8 → List Json.Glyph
  | _, [] => read.reverse
  | skip + 1, _ :: rest => glyphsFrom read skip rest
  | 0, a :: rest =>
    let (glyph, more) := glyphAt a rest
    glyphsFrom (glyph :: read) more rest

/-- The characters of a byte string, and the places where there is none. -/
def glyphs (bytes : List UInt8) : List Json.Glyph := glyphsFrom [] 0 bytes

/-- The character that stands where there is none. -/
def replacement : Char := Char.ofNat 0xFFFD

/-- The text of a byte string, with replacement characters where there is no character. -/
def lossy (bytes : List UInt8) : List Char := (glyphs bytes).map fun glyph => glyph.getD replacement

end Utf8

/-! ## Escapes in addresses -/

namespace Percent

/-- The bytes of a text without its escapes, a percent sign and two digits of base sixteen. Any
other percent sign stands for itself. -/
def decode : List Char → List UInt8
  | [] => []
  | '%' :: a :: b :: cs =>
    match Json.hexValue? a, Json.hexValue? b with
    | some x, some y => UInt8.ofNat (16 * x + y) :: decode cs
    | _, _ => 0x25 :: decode (a :: b :: cs)
  | c :: cs => Utf8.encode c.toString ++ decode cs

end Percent

end Progression
