-- Punycode: a text in ASCII that stands for a text with other characters. The
-- ASCII characters come first, and numbers in letters and digits then say
-- which characters are inserted, and where.

namespace Progression.Host.Punycode

/-- The value of a letter or digit in base 36. -/
def digit? (c : Char) : Option Nat :=
  if 'a' ≤ c && c ≤ 'z' then some (c.toNat - 'a'.toNat)
  else if '0' ≤ c && c ≤ '9' then some (c.toNat - '0'.toNat + 26)
  else none

/-- A digit below this bound is the last one of its number. `turn` counts the digits before it. -/
def threshold (turn bias : Nat) : Nat := min 26 (max 1 (36 * (turn + 1) - bias))

/-- Counts how often `delta` is divided until it is small, and gives the bias that fits it. -/
def settle (delta turns : Nat) : Nat :=
  if 455 < delta then settle (delta / 35) (turns + 1)
  else 36 * turns + 36 * delta / (delta + 38)
termination_by delta

/-- The bias behind a number, so that the next one is short if it is about as large. -/
def adapted (delta length : Nat) (isFirst : Bool) : Nat :=
  let delta := if isFirst then delta / 700 else delta / 2
  settle (delta + delta / length) 0

/-- What has been read. -/
structure Reading where
  text : List Char
  /-- The code point of the characters that are inserted. -/
  code : Nat
  /-- The place behind the last insertion. -/
  place : Nat
  bias : Nat
  /-- The value of the digits of an unfinished number, how many they are, and the weight of the
  next one. -/
  delta : Nat
  turn : Nat
  weight : Nat

/-- What has been read when the ASCII characters have been. -/
def Reading.start (text : List Char) : Reading := ⟨text, 128, 0, 72, 0, 0, 1⟩

/-- Numbers stay below this bound. -/
def bound : Nat := 0x100000000

/-- Inserts the character that a finished number stands for. -/
def Reading.insert? (r : Reading) (delta : Nat) : Option Reading :=
  let places := r.text.length + 1
  let code := r.code + (r.place + delta) / places
  let place := (r.place + delta) % places
  if code.isValidChar then
    some ⟨r.text.take place ++ Char.ofNat code :: r.text.drop place, code, place + 1,
      adapted delta places (r.place == 0), 0, 0, 1⟩
  else none

/-- Reads a digit. -/
def Reading.read? (r : Reading) (c : Char) : Option Reading := do
  let digit ← digit? c
  let delta := r.delta + digit * r.weight
  if bound ≤ r.place + delta then none
  let threshold := threshold r.turn r.bias
  if digit < threshold then r.insert? delta
  else
    let weight := r.weight * (36 - threshold)
    if bound ≤ weight then none
    some { r with delta, turn := r.turn + 1, weight }

/-- The ASCII characters and the numbers, with the last hyphen between them. -/
def split (cs : List Char) : List Char × List Char :=
  let numbers := (cs.reverse.takeWhile (· != '-')).reverse
  match cs.take (cs.length - numbers.length) with
  | [] => ([], numbers)
  | ['-'] => ([], cs)
  | ascii => (ascii.dropLast, numbers)

/-- The text that a text stands for. -/
def decode? (cs : List Char) : Option (List Char) := do
  let (ascii, numbers) := split cs
  let r ← numbers.foldlM Reading.read? (.start ascii)
  if r.turn = 0 then some r.text else none

end Progression.Host.Punycode
