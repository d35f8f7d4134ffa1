-- JSON values, read from tokens and written as text. Members keep their
-- order and their repetitions, numbers and strings the form they were
-- written in, so that a value says all that its text said, blanks apart.
import Progression.Decimal
import Progression.Json.Token

namespace Progression

inductive Json where
  | null
  | bool (b : Bool)
  | number (literal : List Char)
  | string (pieces : List Json.Piece)
  | array (items : List Json)
  | object (members : List (List Json.Piece × Json))

namespace Json

/-! ## Building values -/

def text (s : String) : Json := .string (piecesOf s.toList)

def int (z : Int) : Json := .number (Decimal.ofInt z)

/-- An object of members with ordinary names. -/
def record (members : List (String × Json)) : Json :=
  .object (members.map fun m => (piecesOf m.1.toList, m.2))

/-- A mapping from byte strings. Bytes are no member names, so only the empty one has a form. -/
def ofByteKeys? (entries : List (List UInt8 × Json)) : Option Json :=
  if entries.isEmpty then some (.object []) else none

/-! ## Writing -/

mutual

/-- The shortest text of a value: no blanks. -/
def write : Json → List Char
  | .null => ['n', 'u', 'l', 'l']
  | .bool true => ['t', 'r', 'u', 'e']
  | .bool false => ['f', 'a', 'l', 's', 'e']
  | .number literal => literal
  | .string pieces => writePieces pieces
  | .array [] => ['[', ']']
  | .array (item :: items) => '[' :: (write item ++ writeItems items)
  | .object [] => ['\x7b', '\x7d']
  | .object ((name, value) :: members) =>
    '\x7b' :: (writePieces name ++ ':' :: (write value ++ writeMembers members))

/-- The items after the first, and the bracket that ends them. -/
def writeItems : List Json → List Char
  | [] => [']']
  | item :: items => ',' :: (write item ++ writeItems items)

/-- The members after the first, and the brace that ends them. -/
def writeMembers : List (List Piece × Json) → List Char
  | [] => ['\x7d']
  | (name, value) :: members =>
    ',' :: (writePieces name ++ ':' :: (write value ++ writeMembers members))

end

/-- The text of a value. -/
def render (value : Json) : String := String.ofList value.write

/-! ## Reading -/

/-- An array or object that is being read; its parts are kept last one first. -/
inductive Frame where
  | items (read : List Json)
  | members (read : List (List Piece × Json))
  /-- The value of this member is being read. -/
  | member (name : List Piece) (read : List (List Piece × Json))

/-- What a reader of a value expects next, inside the frames around it. -/
inductive Reading where
  | nextValue (frames : List Frame)
  | firstItem (frames : List Frame)
  | firstName (frames : List Frame)
  | nextName (read : List (List Piece × Json)) (frames : List Frame)
  | nextColon (name : List Piece) (read : List (List Piece × Json)) (frames : List Frame)
  /-- The innermost frame has just got a part. -/
  | more (frame : Frame) (frames : List Frame)
  | finished (value : Json)
  | failed

namespace Reading

/-- A value is complete and becomes a part of the innermost frame. -/
def complete (value : Json) : List Frame → Reading
  | [] => .finished value
  | .items read :: frames => .more (.items (value :: read)) frames
  | .member name read :: frames => .more (.members ((name, value) :: read)) frames
  | .members _ :: _ => .failed

/-- The first token of a value. -/
def beginValue (frames : List Frame) : Token → Reading
  | .null => complete .null frames
  | .bool b => complete (.bool b) frames
  | .number literal => complete (.number literal) frames
  | .string pieces => complete (.string pieces) frames
  | .openBracket => .firstItem frames
  | .openBrace => .firstName frames
  | _ => .failed

def step (reading : Reading) (token : Token) : Reading :=
  match reading with
  | .nextValue frames => beginValue frames token
  | .firstItem frames =>
    match token with
    | .closeBracket => complete (.array []) frames
    | _ => beginValue (.items [] :: frames) token
  | .firstName frames =>
    match token with
    | .closeBrace => complete (.object []) frames
    | .string name => .nextColon name [] frames
    | _ => .failed
  | .nextName read frames =>
    match token with
    | .string name => .nextColon name read frames
    | _ => .failed
  | .nextColon name read frames =>
    match token with
    | .colon => .nextValue (.member name read :: frames)
    | _ => .failed
  | .more frame frames =>
    match frame, token with
    | .items read, .comma => .nextValue (.items read :: frames)
    | .items read, .closeBracket => complete (.array read.reverse) frames
    | .members read, .comma => .nextName read frames
    | .members read, .closeBrace => complete (.object read.reverse) frames
    | _, _ => .failed
  | .finished _ => .failed
  | .failed => .failed

/-- The value, if it is complete and nothing followed. -/
def value? : Reading → Option Json
  | .finished value => some value
  | _ => none

end Reading

/-- The value that the tokens spell, if they spell one. -/
def ofTokens? (tokens : List Token) : Option Json :=
  (tokens.foldl Reading.step (.nextValue [])).value?

/-- The value of a text of characters and stray bytes. -/
def ofGlyphs? (glyphs : List Glyph) : Option Json := ofTokens? (tokens glyphs)

/-- The value of a text: one value, and nothing but blanks around it. -/
def parse? (s : String) : Option Json := ofGlyphs? (s.toList.map some)

end Json

end Progression
