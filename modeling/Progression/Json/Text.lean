-- The inside of a JSON string: its pieces as written, the text they
-- stand for, and the written form of a text.

namespace Progression.Json

/-- One place of a text that is read: a character, or none for a byte that belongs to no
character. -/
abbrev Glyph := Option Char

/-- A part of a string as it is written. Escapes of ordinary characters are the characters. -/
inductive Piece where
  | char (c : Char)
  /-- An escaped half of a surrogate pair. -/
  | surrogate (half : Nat)
  /-- A byte that belongs to no character. -/
  | stray
deriving DecidableEq, Repr

namespace Piece

def isHighHalf (half : Nat) : Bool := 0xD800 ≤ half && half ≤ 0xDBFF

def isLowHalf (half : Nat) : Bool := 0xDC00 ≤ half && half ≤ 0xDFFF

/-- The piece of the escape with that number. -/
def ofEscape (number : Nat) : Piece :=
  if isHighHalf number || isLowHalf number then .surrogate number else .char (Char.ofNat number)

/-- The character of a surrogate pair. -/
def pair (high low : Nat) : Char := Char.ofNat (0x10000 + (high - 0xD800) * 0x400 + (low - 0xDC00))

end Piece

/-- Puts the next character before the text of the pieces behind it. -/
def consChar? (c : Char) (text : Option (List Char)) : Option (List Char) := text.map (c :: ·)

/-- The text of a string: none if half of a pair stands alone or a byte is no character. -/
def textOf? : List Piece → Option (List Char)
  | [] => some []
  | .char c :: rest => consChar? c (textOf? rest)
  | .surrogate high :: .surrogate low :: rest =>
    if Piece.isHighHalf high && Piece.isLowHalf low then consChar? (Piece.pair high low) (textOf? rest)
    else none
  | _ => none

/-- The pieces of a text. -/
def piecesOf (text : List Char) : List Piece := text.map Piece.char

theorem textOf?_piecesOf (text : List Char) : textOf? (piecesOf text) = some text := by
  induction text with
  | nil => rfl
  | cons c rest ih =>
    simp only [piecesOf, List.map_cons, textOf?] at ih ⊢
    rw [ih]
    rfl

/-! ## The written form -/

/-- A digit of base sixteen, in lower case. -/
def hexDigit (d : Nat) : Char := if d < 10 then Char.ofNat (48 + d) else Char.ofNat (87 + d)

/-- The value of a digit of base sixteen, in either case. -/
def hexValue? (c : Char) : Option Nat :=
  if '0' ≤ c ∧ c ≤ '9' then some (c.toNat - 48)
  else if 'a' ≤ c ∧ c ≤ 'f' then some (c.toNat - 87)
  else if 'A' ≤ c ∧ c ≤ 'F' then some (c.toNat - 55)
  else none

/-- An escape of four digits. -/
def hexEscape (n : Nat) : List Char :=
  ['\\', 'u', hexDigit (n / 4096 % 16), hexDigit (n / 256 % 16), hexDigit (n / 16 % 16),
    hexDigit (n % 16)]

/-- A character inside a string: quotes, backslashes and control characters are escaped. -/
def escapeChar (c : Char) : List Char :=
  if c = '"' then ['\\', '"']
  else if c = '\\' then ['\\', '\\']
  else if c = '\n' then ['\\', 'n']
  else if c = '\r' then ['\\', 'r']
  else if c = '\t' then ['\\', 't']
  else if c.toNat = 8 then ['\\', 'b']
  else if c.toNat = 12 then ['\\', 'f']
  else if c.toNat < 32 then hexEscape c.toNat
  else [c]

/-- The character that a one-letter escape stands for. -/
def escaped? : Char → Option Char
  | '"' => some '"'
  | '\\' => some '\\'
  | '/' => some '/'
  | 'b' => some (Char.ofNat 8)
  | 'f' => some (Char.ofNat 12)
  | 'n' => some '\n'
  | 'r' => some '\r'
  | 't' => some '\t'
  | _ => none

/-- A piece as it is written; a stray byte becomes the replacement character. -/
def writePiece : Piece → List Char
  | .char c => escapeChar c
  | .surrogate half => hexEscape half
  | .stray => [Char.ofNat 0xFFFD]

/-- A string with its quotes. -/
def writePieces (pieces : List Piece) : List Char := '"' :: (pieces.flatMap writePiece ++ ['"'])

end Progression.Json
