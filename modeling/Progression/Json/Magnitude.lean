-- How large a number literal is. A literal whose value is past the
-- largest double is no number at all to a reader that has to look at it.
import Progression.Decimal
import Progression.Json.Token

namespace Progression.Json

/-- A literal as its leading digits, as many as 64 bits hold, and a power of ten. -/
structure Scaled where
  digits : Nat
  exponent : Int
  /-- The digits are all that 64 bits hold. -/
  full : Bool
deriving DecidableEq, Repr

namespace Scaled

/-- One more digit in front of the point; past 64 bits it only counts as a place. -/
def pushWhole (s : Scaled) (c : Char) : Scaled :=
  let next := 10 * s.digits + (c.toNat - 48)
  if s.full || UInt64.size ≤ next then { s with exponent := s.exponent + 1, full := true }
  else { s with digits := next }

/-- One more digit behind the point; past 64 bits it does not count. -/
def pushFraction (s : Scaled) (c : Char) : Scaled :=
  let next := 10 * s.digits + (c.toNat - 48)
  if s.full || UInt64.size ≤ next then { s with full := true }
  else { s with digits := next, exponent := s.exponent - 1 }

/-- An exponent of this size decides alone whether a literal is large or small. -/
def exponentBound : Nat := 0x80000000

/-- The size of an exponent. -/
def exponentSize (cs : List Char) : Int :=
  if cs.isEmpty then 0 else ((Decimal.below? exponentBound cs).getD exponentBound : Nat)

/-- The exponent that is written at the end of a literal. -/
def writtenExponent : List Char → Int
  | _ :: '-' :: cs => -exponentSize cs
  | _ :: '+' :: cs => exponentSize cs
  | _ :: cs => exponentSize cs
  | [] => 0

/-- The scaled form of a literal, its sign apart. -/
def ofLiteral (literal : List Char) : Scaled :=
  let cs := literal.dropWhile (· == '-')
  let whole := (cs.takeWhile isDigit).foldl pushWhole ⟨0, 0, false⟩
  let rest := cs.dropWhile isDigit
  let fraction := if rest.head? = some '.' then (rest.drop 1).takeWhile isDigit else []
  let rest := if rest.head? = some '.' then (rest.drop 1).dropWhile isDigit else rest
  let s := fraction.foldl pushFraction { whole with full := false }
  { s with exponent := s.exponent + writtenExponent rest }

end Scaled

/-- A number rounded to 53 binary digits, a tie to the even neighbour. -/
def round53 (n : Nat) : Nat :=
  if n < 1 <<< 53 then n
  else
    let unit := 1 <<< (n.log2 - 52)
    let q := n / unit
    let r := 2 * (n % unit)
    (if r > unit || (r == unit && q % 2 == 1) then q + 1 else q) * unit

/-- The least number that rounds past the largest double. -/
def doubleBound : Nat := (1 <<< 1024) - (1 <<< 970)

/-- A literal is past the largest double. -/
def isTooLarge (literal : List Char) : Bool :=
  let s := Scaled.ofLiteral literal
  if s.digits = 0 || s.exponent < 0 then false
  else if 308 < s.exponent then true
  else doubleBound ≤ round53 s.digits * round53 (Nat.pow 10 s.exponent.toNat)

end Progression.Json
