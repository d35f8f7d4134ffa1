-- Media types: the content type of a request says whether its body is
-- JSON.

namespace Progression.Http

/-- A character of a token of a header value. -/
def isTokenChar (c : Char) : Bool :=
  c.isAlphanum || "!#$%&'*+-.^_|~".contains c || c.toNat == 96

structure MediaType where
  type : List Char
  subtype : List Char
  /-- What stands behind the last plus sign of the subtype. -/
  structured : Option (List Char)
deriving DecidableEq, Repr

/-! ## Parameters -/

/-- Where a reader of parameters stands. -/
inductive ParameterScan where
  | nameStart
  | name
  | valueStart
  | value
  | quotedStart
  | quoted
  | quotedEnd
  | broken
deriving DecidableEq, Repr

namespace ParameterScan

/-- A printable ASCII character. -/
def isQuotable (c : Char) : Bool := 31 < c.toNat && c.toNat < 127

def step (scan : ParameterScan) (c : Char) : ParameterScan :=
  match scan with
  | .nameStart => if c == ' ' then .nameStart else if isTokenChar c then .name else .broken
  | .name => if isTokenChar c then .name else if c == '=' then .valueStart else .broken
  | .valueStart =>
    if c == '"' then .quotedStart else if isTokenChar c then .value else .broken
  | .value => if isTokenChar c then .value else if c == ';' then .nameStart else .broken
  | .quotedStart => if isQuotable c then .quoted else .broken
  | .quoted => if c == '"' then .quotedEnd else if isQuotable c then .quoted else .broken
  | .quotedEnd => if c == ';' then .nameStart else if c == ' ' then .quotedEnd else .broken
  | .broken => .broken

/-- The parameters may end here. -/
def mayEnd : ParameterScan → Bool
  | .nameStart | .valueStart | .value | .quotedEnd => true
  | _ => false

end ParameterScan

/-- The parameters are well formed: nothing, or a semicolon before each. -/
def areParameters : List Char → Bool
  | [] => true
  | ';' :: cs => (cs.foldl ParameterScan.step .nameStart).mayEnd
  | _ => false

/-! ## Types -/

/-- Splits a subtype at its last plus sign, but not at one in front. -/
def splitStructured (subtype : List Char) : List Char × Option (List Char) :=
  let behind := (subtype.reverse.takeWhile (· != '+')).reverse
  let before := (subtype.reverse.dropWhile (· != '+')).drop 1 |>.reverse
  if before.isEmpty then (subtype, none) else (before, some behind)

/-- The media type of a header value; letters count as lower case. -/
def MediaType.parse? (text : List Char) : Option MediaType :=
  let text := text.map Char.toLower
  let type := text.takeWhile isTokenChar
  match text.dropWhile isTokenChar with
  | '/' :: rest =>
    let subtype := rest.takeWhile isTokenChar
    let (subtype, structured) := splitStructured subtype
    if type.isEmpty || subtype.isEmpty || !areParameters (rest.dropWhile isTokenChar) then none
    else some ⟨type, subtype, structured⟩
  | _ => none

/-- JSON itself, or a type that is written as JSON. -/
def MediaType.isJson (m : MediaType) : Bool :=
  m.type == "application".toList
    && (m.subtype == "json".toList || m.structured == some "json".toList)

/-- The content type says that the body is JSON. -/
def saysJson (contentType : Option String) : Bool :=
  match contentType.bind fun value => MediaType.parse? value.toList with
  | some m => m.isJson
  | none => false

end Progression.Http
