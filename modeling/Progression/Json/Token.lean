-- The tokens of JSON text. A text is read glyph by glyph; what is no
-- token ends the list with `broken`, so that a reader of tokens meets
-- the first fault of a text where it stands.
import Progression.Json.Text

namespace Progression.Json

inductive Token where
  | openBrace
  | closeBrace
  | openBracket
  | closeBracket
  | colon
  | comma
  | null
  | bool (b : Bool)
  | number (literal : List Char)
  | string (pieces : List Piece)
  | broken
deriving DecidableEq, Repr

/-- How far a number has been read. -/
inductive NumberPart where
  | minus
  | zero
  | whole
  | point
  | fraction
  | exponent
  | exponentSign
  | exponentDigits
deriving DecidableEq, Repr

/-- What a reader is in the middle of; what was read is kept last glyph first. -/
inductive Scan where
  | between
  | word (rest : List Char) (token : Token)
  | number (part : NumberPart) (read : List Char)
  | string (read : List Piece)
  | escape (read : List Piece)
  | hex (read : List Piece) (missing : Nat) (number : Nat)
  | broken
deriving DecidableEq, Repr

/-- A reader and the tokens it has read, the last one first. -/
structure Lexer where
  scan : Scan
  read : List Token
deriving DecidableEq, Repr

def isBlank (c : Char) : Bool := c == ' ' || c == '\n' || c == '\t' || c == '\r'

def isDigit (c : Char) : Bool := '0' ≤ c && c ≤ '9'

namespace NumberPart

/-- The part that a character continues a number with, if it can. -/
def next? (part : NumberPart) (c : Char) : Option NumberPart :=
  match part with
  | .minus => if c == '0' then some .zero else if isDigit c then some .whole else none
  | .zero => if c == '.' then some .point else if c == 'e' || c == 'E' then some .exponent else none
  | .whole =>
    if isDigit c then some .whole
    else if c == '.' then some .point
    else if c == 'e' || c == 'E' then some .exponent
    else none
  | .point => if isDigit c then some .fraction else none
  | .fraction =>
    if isDigit c then some .fraction
    else if c == 'e' || c == 'E' then some .exponent
    else none
  | .exponent =>
    if isDigit c then some .exponentDigits
    else if c == '+' || c == '-' then some .exponentSign
    else none
  | .exponentSign => if isDigit c then some .exponentDigits else none
  | .exponentDigits => if isDigit c then some .exponentDigits else none

/-- A number may end here. -/
def mayEnd : NumberPart → Bool
  | .zero | .whole | .fraction | .exponentDigits => true
  | _ => false

/-- A number may end before this character: a zero is not followed by a digit. -/
def mayEndBefore (part : NumberPart) (c : Char) : Bool :=
  part.mayEnd && !(part == .zero && isDigit c)

end NumberPart

namespace Lexer

def start : Lexer := ⟨.between, []⟩

/-- One more token, and then between tokens. -/
def emit (lexer : Lexer) (token : Token) : Lexer := ⟨.between, token :: lexer.read⟩

/-- The text is broken from here on. -/
def fail (lexer : Lexer) : Lexer := ⟨.broken, lexer.read⟩

/-- The first character of a token, or a blank. -/
def begin (lexer : Lexer) (c : Char) : Lexer :=
  if isBlank c then ⟨.between, lexer.read⟩
  else
    match c with
    | '\x7b' => lexer.emit .openBrace
    | '\x7d' => lexer.emit .closeBrace
    | '[' => lexer.emit .openBracket
    | ']' => lexer.emit .closeBracket
    | ':' => lexer.emit .colon
    | ',' => lexer.emit .comma
    | '"' => ⟨.string [], lexer.read⟩
    | 'n' => ⟨.word ['u', 'l', 'l'] .null, lexer.read⟩
    | 't' => ⟨.word ['r', 'u', 'e'] (.bool true), lexer.read⟩
    | 'f' => ⟨.word ['a', 'l', 's', 'e'] (.bool false), lexer.read⟩
    | '-' => ⟨.number .minus ['-'], lexer.read⟩
    | '0' => ⟨.number .zero ['0'], lexer.read⟩
    | _ => if isDigit c then ⟨.number .whole [c], lexer.read⟩ else lexer.fail

/-- A character inside the quotes of a string. -/
def stepString (lexer : Lexer) (read : List Piece) (c : Char) : Lexer :=
  if c = '"' then lexer.emit (.string read.reverse)
  else if c = '\\' then ⟨.escape read, lexer.read⟩
  else if c.toNat < 32 then lexer.fail
  else ⟨.string (.char c :: read), lexer.read⟩

/-- The character after a backslash. -/
def stepEscape (lexer : Lexer) (read : List Piece) (c : Char) : Lexer :=
  if c = 'u' then ⟨.hex read 4 0, lexer.read⟩
  else
    match escaped? c with
    | some e => ⟨.string (.char e :: read), lexer.read⟩
    | none => lexer.fail

/-- A digit of a four-digit escape. -/
def stepHex (lexer : Lexer) (read : List Piece) (missing number : Nat) (c : Char) : Lexer :=
  match hexValue? c with
  | none => lexer.fail
  | some d =>
    if missing ≤ 1 then ⟨.string (.ofEscape (16 * number + d) :: read), lexer.read⟩
    else ⟨.hex read (missing - 1) (16 * number + d), lexer.read⟩

/-- Reads one character. -/
def stepChar (lexer : Lexer) (c : Char) : Lexer :=
  match lexer.scan with
  | .between => lexer.begin c
  | .word [] token => (lexer.emit token).begin c
  | .word [last] token => if c = last then lexer.emit token else lexer.fail
  | .word (next :: rest) token => if c = next then ⟨.word rest token, lexer.read⟩ else lexer.fail
  | .number part read =>
    match part.next? c with
    | some next => ⟨.number next (c :: read), lexer.read⟩
    | none =>
      if part.mayEndBefore c then (lexer.emit (.number read.reverse)).begin c else lexer.fail
  | .string read => lexer.stepString read c
  | .escape read => lexer.stepEscape read c
  | .hex read missing number => lexer.stepHex read missing number c
  | .broken => lexer

/-- A byte that belongs to no character may stand inside a string only. -/
def stepStray (lexer : Lexer) : Lexer :=
  match lexer.scan with
  | .string read => ⟨.string (.stray :: read), lexer.read⟩
  | .number part read =>
    if part.mayEnd then (lexer.emit (.number read.reverse)).fail else lexer.fail
  | _ => lexer.fail

def step (lexer : Lexer) : Glyph → Lexer
  | some c => lexer.stepChar c
  | none => lexer.stepStray

/-- The tokens read, once the text has ended. -/
def finish (lexer : Lexer) : List Token :=
  match lexer.scan with
  | .between => lexer.read.reverse
  | .number part read =>
    if part.mayEnd then (.number read.reverse :: lexer.read).reverse
    else (.broken :: lexer.read).reverse
  | _ => (.broken :: lexer.read).reverse

end Lexer

/-- The tokens of a text; the last one is `broken` if the text does not end with a token. -/
def tokens (text : List Glyph) : List Token := (text.foldl Lexer.step Lexer.start).finish

end Progression.Json
