-- What requests say: the records in their bodies and the named values of
-- their queries, whole numbers each of which may be missing. A body is
-- judged in reading order, and its first fault decides the answer: broken
-- text is one kind of fault, wrong data another.
import Progression.Bytes
import Progression.Json.Coded
import Progression.Json.Magnitude

namespace Progression.Http

/-- What is wrong with a body. -/
inductive FormFault where
  /-- The text is no JSON, or says more than the record. -/
  | form
  /-- The text is JSON up to here, and does not fit the record. -/
  | content
deriving DecidableEq, Repr

/-- A field of a record: its name and the range of its number. -/
structure Field where
  name : String
  least : Int
  greatest : Int
deriving DecidableEq, Repr

/-- Where a reader of a record stands. -/
inductive Place where
  | start
  | firstName
  | nextName
  /-- A name was read: that of a field, or one that does not matter. -/
  | colon (field : Option Nat)
  | fieldValue (field : Nat)
  | skipping (reading : Json.Reading)
  | memberEnd
  | firstItem
  | nextItem (field : Nat)
  | itemEnd (read : Nat)
  | complete
  | failed (fault : FormFault)

/-- A reader of a record with the numbers that it has read, one place for each field. -/
structure FormReader where
  place : Place
  values : List (Option Int)

namespace FormReader

def start (fields : List Field) : FormReader := ⟨.start, fields.map fun _ => none⟩

def moveTo (reader : FormReader) (place : Place) : FormReader := { reader with place }

def fail (reader : FormReader) (fault : FormFault) : FormReader := reader.moveTo (.failed fault)

/-- The fault of a token that begins no number where one is needed. -/
def mismatch : Json.Token → FormFault
  | .null | .bool _ | .openBracket | .openBrace => .content
  | .number literal => if Json.isTooLarge literal then .form else .content
  | .string pieces => if (Json.textOf? pieces).isSome then .content else .form
  | .closeBrace | .closeBracket | .colon | .comma | .broken => .form

/-- Reads the number of a field. -/
def readField (reader : FormReader) (fields : List Field) (index : Nat) (token : Json.Token)
    (next : Place) : FormReader :=
  match token, fields[index]? with
  | .number literal, some field =>
    match Json.integer? literal with
    | some z =>
      if field.least ≤ z ∧ z ≤ field.greatest then
        ⟨next, reader.values.set index (some z)⟩
      else reader.fail (mismatch token)
    | none => reader.fail (mismatch token)
  | token, _ => reader.fail (mismatch token)

/-- Reads the name of a member. A field may not be named twice. -/
def readName (reader : FormReader) (fields : List Field) (pieces : List Json.Piece) : FormReader :=
  match Json.textOf? pieces with
  | none => reader.fail .form
  | some name =>
    match fields.findIdx? fun field => field.name.toList == name with
    | none => reader.moveTo (.colon none)
    | some index =>
      if (reader.values[index]?.getD none).isSome then reader.fail .content
      else reader.moveTo (.colon (some index))

def step (fields : List Field) (reader : FormReader) (token : Json.Token) : FormReader :=
  match reader.place with
  | .start =>
    match token with
    | .openBrace => reader.moveTo .firstName
    | .openBracket => reader.moveTo .firstItem
    | token => reader.fail (mismatch token)
  | .firstName =>
    match token with
    | .closeBrace => reader.moveTo .complete
    | .string pieces => reader.readName fields pieces
    | _ => reader.fail .form
  | .nextName =>
    match token with
    | .string pieces => reader.readName fields pieces
    | _ => reader.fail .form
  | .colon field =>
    match token, field with
    | .colon, some index => reader.moveTo (.fieldValue index)
    | .colon, none => reader.moveTo (.skipping (.nextValue []))
    | _, _ => reader.fail .form
  | .fieldValue index => reader.readField fields index token .memberEnd
  | .skipping reading =>
    match reading.step token with
    | .finished _ => reader.moveTo .memberEnd
    | .failed => reader.fail .form
    | reading => reader.moveTo (.skipping reading)
  | .memberEnd =>
    match token with
    | .comma => reader.moveTo .nextName
    | .closeBrace => reader.moveTo .complete
    | _ => reader.fail .form
  | .firstItem =>
    match token with
    | .closeBracket => reader.moveTo .complete
    | token => reader.readField fields 0 token (.itemEnd 1)
  | .nextItem index => reader.readField fields index token (.itemEnd (index + 1))
  | .itemEnd read =>
    match token with
    | .closeBracket => reader.moveTo .complete
    | .comma => if read < fields.length then reader.moveTo (.nextItem read) else reader.fail .form
    | _ => reader.fail .form
  | .complete => reader.fail .form
  | .failed _ => reader

/-- The numbers of the record once the text has ended; a missing one is zero. -/
def finish (reader : FormReader) : Except FormFault (List Int) :=
  match reader.place with
  | .complete => .ok (reader.values.map fun value => value.getD 0)
  | .failed fault => .error fault
  | _ => .error .form

end FormReader

/-- Reads a record from text. -/
def readForm (fields : List Field) (text : List Json.Glyph) : Except FormFault (List Int) :=
  ((Json.tokens text).foldl (FormReader.step fields) (.start fields)).finish

/-! ## The records of the routes -/

def userField : Field := ⟨"user_id", Int64.minValue.toInt, Int64.maxValue.toInt⟩

def skinField : Field := ⟨"skin_id", Int32.minValue.toInt, Int32.maxValue.toInt⟩

/-- The player that a body names, zero if it names none. -/
def readUser (text : List Json.Glyph) : Except FormFault UserId :=
  (readForm [userField] text).map fun
    | [user] => Int64.ofInt user
    | _ => 0

/-- The player and the skin that a body names; each is zero if it is not named. -/
def readUserAndSkin (text : List Json.Glyph) : Except FormFault (UserId × SkinId) :=
  (readForm [userField, skinField] text).map fun
    | [user, skin] => (Int64.ofInt user, Int32.ofInt skin)
    | _ => (0, 0)

/-! ## Queries -/

/-- A name or a value of a query: a plus stands for a blank, and escapes are taken out. -/
def unescaped (cs : List Char) : List Char :=
  Utf8.lossy (Percent.decode (cs.map fun c => if c = '+' then ' ' else c))

/-- A part of a query: the name before the first equals sign, and the value behind it. -/
def queryPair (part : List Char) : List Char × List Char :=
  (unescaped (part.takeWhile (· != '=')), unescaped ((part.dropWhile (· != '=')).drop 1))

/-- The named values of a query; empty parts do not count. -/
def queryPairs (query : List Char) : List (List Char × List Char) :=
  ((query.splitOn '&').filter fun part => !part.isEmpty).map queryPair

/-- A 64-bit number with an optional sign. -/
def word64? (cs : List Char) : Option Int64 :=
  (Decimal.signed? (1 <<< 63) cs).map Int64.ofInt

/-- The player that a query names, zero if it names none; no answer if it names one badly or more
than once. -/
def queriedUser? (query : Option String) : Option UserId :=
  let pairs := queryPairs ((query.getD "").toList)
  match pairs.filter fun pair => pair.1 == "user_id".toList with
  | [] => some 0
  | [pair] => word64? pair.2
  | _ => none

end Progression.Http
