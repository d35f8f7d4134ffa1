-- Tables of code points: ranges in rising order, each with an entry. They
-- are written as text, in numbers of base sixteen, and found by halving.
import Progression.Json.Text

namespace Progression.Host

/-- A range of code points that share an entry. -/
structure CodeRange (α : Type) where
  first : Nat
  last : Nat
  entry : α

/-- Ranges in rising order, which do not overlap. -/
structure CodeTable (α : Type) where
  ranges : Array (CodeRange α)

/-- The number that digits of base sixteen stand for. -/
def hexNumber (cs : List Char) : Nat :=
  cs.foldl (fun n c => 16 * n + (Json.hexValue? c).getD 0) 0

/-- Texts of characters, with commas between the texts and dots between the characters. -/
def sequences (cs : List Char) : List (List Char) :=
  (cs.splitOn ',').map fun text => (text.splitOn '.').map fun code => Char.ofNat (hexNumber code)

namespace CodeTable

variable {α : Type}

/-- Reads a range: its bounds, or its only code point, and then what belongs to its entry. -/
def readRange (entry : List Char → α) (cs : List Char) : CodeRange α :=
  let bounds := cs.takeWhile (· != ':')
  let first := bounds.takeWhile (· != '-')
  let last := (bounds.dropWhile (· != '-')).drop 1
  ⟨hexNumber first, hexNumber (if last.isEmpty then first else last),
    entry (cs.dropWhile (· != ':'))⟩

/-- Reads ranges with blanks between them. `entry` reads what stands behind the bounds. -/
def ofText (entry : List Char → α) (text : String) : CodeTable α :=
  let words := text.toList.splitOnP fun c => c == ' ' || c == '\n'
  ⟨((words.filter fun word => !word.isEmpty).map (readRange entry)).toArray⟩

/-- The range around a code point among the ranges from the place `low` to before `high`. -/
def search (ranges : Array (CodeRange α)) (code low high : Nat) : Option (CodeRange α) :=
  if low < high then
    let middle := (low + high) / 2
    match ranges[middle]? with
    | none => none
    | some range =>
      if code < range.first then search ranges code low middle
      else if range.last < code then search ranges code (middle + 1) high
      else some range
  else none
termination_by high - low

/-- The range around a character. -/
def find? (table : CodeTable α) (c : Char) : Option (CodeRange α) :=
  search table.ranges c.toNat 0 table.ranges.size

/-- The entry of a character; `other` if it has none. -/
def entryD (table : CodeTable α) (c : Char) (other : α) : α :=
  match table.find? c with
  | some range => range.entry
  | none => other

end CodeTable

end Progression.Host
