-- The rows that the store's statements return. A column that comes from
-- the far side of a left join may be null, and then counts as zero or as
-- the empty text.
import Progression.Catalogue

namespace Progression.Database

/-- A character with its skin and its level, either of which may be unknown. -/
structure ProfileRow where
  level : Level
  skinId : Option SkinId
  name : Option String
  imageUrl : Option String
  miningForce : Option Int64
  miningMinutes : Option Int32

def ProfileRow.toProfile (row : ProfileRow) : Profile where
  skinName := row.name.getD ""
  level := row.level
  miningRate := row.miningForce.getD 0
  miningDuration := row.miningMinutes.getD 0
  skinId := row.skinId.getD 0
  skinImageUrl := row.imageUrl.getD ""

/-- A skin with the price of the level that unlocks it, if that level has one. -/
structure SkinRow where
  skinId : SkinId
  name : String
  lore : String
  imageUrl : String
  unlockLevel : Level
  price : Option Coins
  referrals : Option Referrals
  referralsToOpen : Option Referrals

def SkinRow.toSkin (row : SkinRow) : Skin where
  id := row.skinId
  name := row.name
  lore := row.lore
  imageUrl := row.imageUrl
  unlockLevel := row.unlockLevel
  price := row.price.getD 0
  referralsToBuy := row.referrals.getD 0
  referralsToOpen := row.referralsToOpen.getD 0
  isOpen := false
  stats := .zero

/-- A level and its price. -/
structure PriceRow where
  level : Level
  price : Coins
  referrals : Referrals
  referralsToOpen : Referrals

def PriceRow.toPrice (row : PriceRow) : LevelPrice :=
  ⟨row.level, row.price, row.referrals, row.referralsToOpen⟩

/-! ## Cells -/

/-- The value of one column in one row, as the database sends it. -/
inductive Cell where
  | null
  | number (z : Int)
  | bool (b : Bool)
  | text (s : String)
  /-- Bytes of a text column that are no text. -/
  | bytes (bytes : List UInt8)
deriving DecidableEq, Repr

namespace Cell

def int32? : Cell → Option Int32
  | .number z => some (Int32.ofInt z)
  | _ => none

def int64? : Cell → Option Int64
  | .number z => some (Int64.ofInt z)
  | _ => none

def bool? : Cell → Option Bool
  | .bool b => some b
  | _ => none

def text? : Cell → Option String
  | .text s => some s
  | _ => none

/-- A column that may be null. -/
def nullable? {α : Type} (read? : Cell → Option α) : Cell → Option (Option α)
  | .null => some none
  | cell => (read? cell).map some

end Cell

/-- The row of that shape, or the number of the first column that cannot be read. -/
def readCell {α : Type} (read? : Cell → Option α) (row : List Cell) (column : Nat) : Except Nat α :=
  match row[column]?.bind read? with
  | some a => .ok a
  | none => .error column

def ProfileRow.ofCells (row : List Cell) : Except Nat ProfileRow := do
  return ⟨← readCell Cell.int32? row 0, ← readCell (Cell.nullable? Cell.int32?) row 1,
    ← readCell (Cell.nullable? Cell.text?) row 2, ← readCell (Cell.nullable? Cell.text?) row 3,
    ← readCell (Cell.nullable? Cell.int64?) row 4, ← readCell (Cell.nullable? Cell.int32?) row 5⟩

def SkinRow.ofCells (row : List Cell) : Except Nat SkinRow := do
  return ⟨← readCell Cell.int32? row 0, ← readCell Cell.text? row 1, ← readCell Cell.text? row 2,
    ← readCell Cell.text? row 3, ← readCell Cell.int32? row 4,
    ← readCell (Cell.nullable? Cell.int64?) row 5, ← readCell (Cell.nullable? Cell.int64?) row 6,
    ← readCell (Cell.nullable? Cell.int64?) row 7⟩

def PriceRow.ofCells (row : List Cell) : Except Nat PriceRow := do
  return ⟨← readCell Cell.int32? row 0, ← readCell Cell.int64? row 1, ← readCell Cell.int64? row 2,
    ← readCell Cell.int64? row 3⟩

end Progression.Database
