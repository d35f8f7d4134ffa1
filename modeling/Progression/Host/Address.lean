-- Numeric addresses of hosts: dotted ones of four bytes, and ones of eight
-- groups of 16 bits between colons.
import Progression.Decimal
import Progression.Json.Text

namespace Progression.Host

/-! ## Dotted addresses -/

/-- The number that a part of a dotted address spells, in base 8, 10 or 16. All that need more
than 32 bits are read as one that does. -/
def partValue? (cs : List Char) : Option Nat :=
  let inBase (base : Nat) (digits : List Char) : Option Nat :=
    digits.foldlM (fun n c => do
      let d ← Json.hexValue? c
      if d < base then some (min (1 <<< 32) (n * base + d)) else none) 0
  match cs with
  | [] => none
  | '0' :: 'x' :: digits => inBase 16 digits
  | '0' :: 'X' :: digits => inBase 16 digits
  | '0' :: digits => inBase 8 digits
  | digits => inBase 10 digits

/-- The parts of a name; a dot at the end does not count. -/
def nameParts (name : List Char) : List (List Char) :=
  let parts := name.splitOn '.'
  if parts.length > 1 && parts.getLast? == some [] then parts.dropLast else parts

/-- The last part of a name looks like a number, so that the name has to be a dotted address. -/
def endsInNumber (name : List Char) : Bool :=
  match (nameParts name).getLast? with
  | some part => (!part.isEmpty && part.all Char.isDigit) || (partValue? part).isSome
  | none => false

/-- The number of 32 bits that a dotted address of at most four parts stands for. The last part
takes the places of those left out. -/
def dottedNumber? (name : List Char) : Option Nat :=
  let parts := nameParts name
  match parts.mapM partValue? with
  | some values =>
    let tail := values.getLast?.getD 0
    let heads := values.dropLast
    if parts.length ≤ 4 && heads.all (· < 256) && tail < 1 <<< (8 * (4 - heads.length)) then
      some (heads.foldr (fun head n => (head <<< 24) + (n >>> 8)) 0 + tail)
    else none
  | none => none

/-- The four bytes of a number with dots between them. -/
def dottedText (n : Nat) : List Char :=
  List.intercalate ['.'] ([24, 16, 8, 0].map fun places => Decimal.digits ((n >>> places) % 256))

/-! ## Addresses of groups -/

/-- A group of at most four digits of base sixteen. -/
def isHexGroup (cs : List Char) : Bool :=
  !cs.isEmpty && cs.length ≤ 4 && cs.all fun c => (Json.hexValue? c).isSome

/-- Four decimal numbers of a byte, without leading zeros. They take the place of two groups. -/
def isDottedTail (cs : List Char) : Bool :=
  let parts := cs.splitOn '.'
  parts.length == 4 && parts.all fun part =>
    (Decimal.below? 256 part).isSome && (part.length == 1 || part.head? != some '0')

/-- The number of groups between colons, if a dotted tail is not allowed. -/
def plainGroupCount? (cs : List Char) : Option Nat :=
  if cs.isEmpty then some 0
  else
    let groups := cs.splitOn ':'
    if groups.all isHexGroup then some groups.length else none

/-- The number of groups between colons. The last two may be a dotted tail. -/
def groupCount? (cs : List Char) : Option Nat :=
  let groups := cs.splitOn ':'
  match groups.getLast? with
  | some last =>
    if isDottedTail last then
      if groups.dropLast.all isHexGroup then some (groups.length + 1) else none
    else plainGroupCount? cs
  | none => none

/-- The places where two colons follow each other, as the texts around them. -/
def doubleColons (before : List Char) : List Char → List (List Char × List Char)
  | ':' :: ':' :: cs => (before.reverse, cs) :: doubleColons (':' :: before) (':' :: cs)
  | c :: cs => doubleColons (c :: before) cs
  | [] => []

/-- An address of eight groups, where two colons may stand for groups of zeros. -/
def isGroupAddress (cs : List Char) : Bool :=
  match doubleColons [] cs with
  | [] => groupCount? cs == some 8
  | [(before, behind)] =>
    match plainGroupCount? before, groupCount? behind with
    | some m, some n => m + n ≤ 7
    | _, _ => false
  | _ => false

end Progression.Host
