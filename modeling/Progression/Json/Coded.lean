-- Values with a JSON form. A record is an object of its named fields, in
-- any order and among unknown members, or an array of its fields in their
-- order; a field that is named twice makes it no record.
import Progression.Basic
import Progression.Json.Tree

namespace Progression

namespace Json

/-- The whole number of at most 64 bits that a literal spells: no fraction, no exponent, and no
minus zero. -/
def integer? (literal : List Char) : Option Int :=
  match literal with
  | ['-', '0'] => none
  | '-' :: cs => (Decimal.below? UInt64.size cs).map fun n => -(n : Int)
  | cs => (Decimal.below? UInt64.size cs).map fun n => (n : Int)

/-- The members of an object under the texts of their names, if every name is a text. -/
def namedMembers? : List (List Piece × Json) → Option (List (List Char × Json))
  | [] => some []
  | (name, value) :: members =>
    match textOf? name, namedMembers? members with
    | some name, some named => some ((name, value) :: named)
    | _, _ => none

/-- The value of the only member of that name; `some none` if there is no such member. -/
def single? (named : List (List Char × Json)) (name : String) : Option (Option Json) :=
  match named.filter fun m => m.1 == name.toList with
  | [] => some none
  | [m] => some (some m.2)
  | _ => none

/-- The fields of a record in the order of their names. An array may leave out the last ones. -/
def fields? (names : List String) : Json → Option (List (Option Json))
  | .array items =>
    if items.length ≤ names.length then
      some (items.map some ++ List.replicate (names.length - items.length) none)
    else none
  | .object members => (namedMembers? members).bind fun named => names.mapM (single? named)
  | _ => none

end Json

/-- A type whose values are written as JSON and read back from it. -/
class Coded (α : Type) where
  encode : α → Json
  decode? : Json → Option α

export Coded (encode decode?)

/-- The text of a value. -/
def encodeText {α : Type} [Coded α] (a : α) : String := (encode a).render

/-- The value of a text, if it is a text of that type. -/
def decodeText? {α : Type} [Coded α] (text : String) : Option α :=
  (Json.parse? text).bind decode?

namespace Coded

/-- A whole number of that range. -/
def wordOf? {α : Type} (least greatest : Int) (ofInt : Int → α) : Json → Option α
  | .number literal =>
    match Json.integer? literal with
    | some z => if least ≤ z ∧ z ≤ greatest then some (ofInt z) else none
    | none => none
  | _ => none

instance : Coded Int32 where
  encode n := .int n.toInt
  decode? := wordOf? Int32.minValue.toInt Int32.maxValue.toInt Int32.ofInt

instance : Coded Int64 where
  encode n := .int n.toInt
  decode? := wordOf? Int64.minValue.toInt Int64.maxValue.toInt Int64.ofInt

instance : Coded Bool where
  encode := .bool
  decode?
    | .bool b => some b
    | _ => none

instance : Coded String where
  encode := .text
  decode?
    | .string pieces => (Json.textOf? pieces).map String.ofList
    | _ => none

instance {α : Type} [Coded α] : Coded (List α) where
  encode as := .array (as.map encode)
  decode?
    | .array items => items.mapM decode?
    | _ => none

end Coded

end Progression
