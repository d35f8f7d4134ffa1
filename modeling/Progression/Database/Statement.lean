-- The statements with which the store asks its database, and what it
-- makes of the replies. A change of level is one conditional update, so
-- that of several level-ups from one level only one finds its row.
import Progression.Database.Row
import Progression.Fault

namespace Progression.Database

/-- A statement and the values of its parameters. -/
structure Statement where
  sql : String
  params : List Int
deriving DecidableEq, Repr

/-- What the database says to a statement that it ran. -/
structure Outcome where
  rows : List (List Cell)
  affected : Nat
deriving DecidableEq, Repr

/-- A question to the database: statements one after another, each chosen by the replies before. -/
inductive Query (α : Type) where
  | done (answer : α)
  | ask (statement : Statement) (next : Except DatabaseFault Outcome → Query α)

namespace Query

/-- Asks one statement; a fault of the database is a fault of the store. -/
def statement {α : Type} (sql : String) (params : List Int)
    (next : Outcome → Query (Except StoreFault α)) : Query (Except StoreFault α) :=
  .ask ⟨sql, params⟩ fun
    | .ok outcome => next outcome
    | .error fault => .done (.error (.database fault))

/-- Reads a row; a cell that cannot be read is a fault of the store. -/
def readRow {α : Type} (row : Except Nat α) : Except StoreFault α :=
  row.mapError fun column => .database (.columnUnreadable column)

/-- Only the first row counts. -/
def firstRow? {α : Type} (read : List Cell → Except Nat α) (outcome : Outcome) :
    Except StoreFault (Option α) :=
  match outcome.rows with
  | [] => .ok none
  | row :: _ => (readRow (read row)).map some

/-- The first row, or else the character is missing. -/
def characterRow {α : Type} (user : UserId) (read : List Cell → Except Nat α) (outcome : Outcome) :
    Except StoreFault α :=
  match firstRow? read outcome with
  | .ok (some a) => .ok a
  | .ok none => .error (.noCharacter user)
  | .error fault => .error fault

end Query

/-! ## The questions -/

def createCharacter (user : UserId) : Query (Except StoreFault Unit) :=
  .statement "INSERT INTO characters (user_id) VALUES ($1) ON CONFLICT (user_id) DO NOTHING"
    [user.toInt] fun _ => .done (.ok ())

def characterLevel (user : UserId) : Query (Except StoreFault Level) :=
  .statement "SELECT current_level FROM characters WHERE user_id = $1" [user.toInt] fun outcome =>
    .done (Query.characterRow user (readCell Cell.int32? · 0) outcome)

def characterProfile (user : UserId) : Query (Except StoreFault Profile) :=
  .statement
    ("SELECT c.current_level, s.skin_id, s.character_name, s.character_image_url, " ++
      "l.mining_force, l.mining_duration_minutes FROM characters c " ++
      "LEFT JOIN character_skins s ON c.current_skin_id = s.skin_id " ++
      "LEFT JOIN character_levels l ON c.current_level = l.level_number WHERE c.user_id = $1")
    [user.toInt] fun outcome =>
      .done ((Query.characterRow user ProfileRow.ofCells outcome).map ProfileRow.toProfile)

def allSkins : Query (Except StoreFault (List Skin)) :=
  .statement
    ("SELECT s.skin_id, s.character_name, s.character_lore, s.character_image_url, " ++
      "s.unlock_level, l.price, l.referrals, l.referral_to_open FROM character_skins s " ++
      "LEFT JOIN character_levels l ON s.unlock_level = l.level_number " ++
      "ORDER BY s.unlock_level, s.skin_id")
    [] fun outcome =>
      .done ((outcome.rows.mapM fun row => Query.readRow (SkinRow.ofCells row)).map
        (List.map SkinRow.toSkin))

def allPrices : Query (Except StoreFault (List LevelPrice)) :=
  .statement
    ("SELECT level_number, price, referrals, referral_to_open FROM character_levels " ++
      "ORDER BY level_number ASC")
    [] fun outcome =>
      .done ((outcome.rows.mapM fun row => Query.readRow (PriceRow.ofCells row)).map
        (List.map PriceRow.toPrice))

/-- Whether there is such a character; the database must say so in one row. -/
def characterExists (user : UserId) (next : Bool → Query (Except StoreFault Level)) :
    Query (Except StoreFault Level) :=
  .statement "SELECT EXISTS (SELECT 1 FROM characters WHERE user_id = $1)" [user.toInt]
    fun outcome =>
      match Query.firstRow? (readCell Cell.bool? · 0) outcome with
      | .ok (some known) => next known
      | .ok none => .done (.error (.database .rowNotFound))
      | .error fault => .done (.error fault)

/-- Moves a character from a level to the next. If it was not at that level, it is either missing
or has moved. -/
def incrementLevel (user : UserId) (fromLevel : Level) : Query (Except StoreFault Level) :=
  .statement
    ("UPDATE characters SET current_level = current_level + 1 " ++
      "WHERE user_id = $1 AND current_level = $2 RETURNING current_level")
    [user.toInt, fromLevel.toInt] fun outcome =>
      match Query.firstRow? (readCell Cell.int32? · 0) outcome with
      | .ok (some level) => .done (.ok level)
      | .ok none => characterExists user fun known =>
        .done (.error (if known then .levelMoved user fromLevel else .noCharacter user))
      | .error fault => .done (.error fault)

def setActiveSkin (user : UserId) (skin : SkinId) : Query (Except StoreFault Unit) :=
  .statement "UPDATE characters SET current_skin_id = $2 WHERE user_id = $1"
    [user.toInt, skin.toInt] fun outcome =>
      .done (if outcome.affected = 0 then .error (.noCharacter user) else .ok ())

/-! ## Answering -/

/-- The database at the other end. -/
inductive Connection where
  /-- The pool was closed. -/
  | closed
  /-- No connection can be made. -/
  | unreachable (reason : String)
  /-- The replies to the next statements; after them, statements find nothing. -/
  | replies (next : List (Except DatabaseFault Outcome))

/-- The reply to the next statement, whether the database saw it, and the connection after it. -/
def Connection.reply : Connection → Except DatabaseFault Outcome × Bool × Connection
  | .closed => (.error .poolClosed, false, .closed)
  | .unreachable reason => (.error (.connection reason), false, .unreachable reason)
  | .replies [] => (.ok ⟨[], 0⟩, true, .replies [])
  | .replies (reply :: next) => (reply, true, .replies next)

/-- The answer to a question, with the statements that the database saw. -/
def Query.answer {α : Type} : Query α → Connection → α × List Statement
  | .done a, _ => (a, [])
  | .ask statement next, connection =>
    let (reply, seen, connection) := connection.reply
    let (a, statements) := (next reply).answer connection
    (a, if seen then statement :: statements else statements)

end Progression.Database
