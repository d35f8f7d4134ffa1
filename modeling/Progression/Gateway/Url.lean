-- Which texts are addresses that a request can be sent to: the scheme is
-- HTTP, with or without encryption, the host and port are sound, and the
-- address is not too long.
import Progression.Bytes
import Progression.Host.Address
import Progression.Host.Name

namespace Progression.Gateway.Url

/-- Splits a text before the first character that satisfies `p`. -/
def splitAt (p : Char → Bool) (cs : List Char) : List Char × List Char :=
  (cs.takeWhile fun c => !p c, cs.dropWhile fun c => !p c)

/-! ## Hosts and ports -/

/-- A character that the first line of a request does not carry, though a name may have it. -/
def isUnsendable (c : Char) : Bool := "\"\x60\x7b\x7d".contains c

/-- The name of a host that can be looked up, or its dotted address. -/
def name? (cs : List Char) : Option (List Char) := do
  let labels ← Host.labels? cs
  let name := List.intercalate ['.'] labels
  if name.isEmpty || name.any isUnsendable then none
  else if Host.endsInNumber name then (Host.dottedNumber? name).map Host.dottedText
  else some name

/-- A host as it is looked up. Escapes in a name are read as UTF-8. -/
def host? (cs : List Char) : Option (List Char) :=
  match cs with
  | '[' :: rest =>
    if rest.getLast? == some ']' && Host.isGroupAddress rest.dropLast then some cs else none
  | cs => name? (Utf8.lossy (Percent.decode cs))

/-- A port of 16 bits; the port of the scheme if there is none. -/
def port? (schemePort : Nat) (cs : List Char) : Option Nat :=
  if cs.isEmpty then some schemePort
  else Decimal.below? 65536 cs

/-! ## Lengths -/

/-- The number of bytes of a text when the characters in `escaped`, those beyond ASCII and the
invisible ones are written as escapes. -/
def escapedLength (escaped : String) (cs : List Char) : Nat :=
  cs.foldl (fun length c =>
    if c.toNat ≤ 0x20 || 0x7F ≤ c.toNat || escaped.contains c then length + 3 * c.utf8Size
    else length + 1) 0

/-- The number of dots, if a segment of a path has only dots, perhaps as escapes. -/
def dotCount? : List Char → Option Nat
  | [] => some 0
  | '.' :: cs => (dotCount? cs).map (· + 1)
  | '%' :: '2' :: 'e' :: cs => (dotCount? cs).map (· + 1)
  | '%' :: '2' :: 'E' :: cs => (dotCount? cs).map (· + 1)
  | _ => none

/-- Follows the segments of a path from `before`, the last one first: one dot stays, and two dots
go back. -/
def follow (before : List (List Char)) : List (List Char) → List (List Char)
  | [] => before
  | segment :: segments =>
    let stay := if segments.isEmpty then [[]] else []
    match dotCount? segment with
    | some 1 => follow (stay ++ before) segments
    | some 2 => follow (stay ++ before.drop 1) segments
    | _ => follow (segment :: before) segments

/-- The length of a path with a stroke before each segment. -/
def pathLength (path : List Char) : Nat :=
  let segments := (path.drop 1).splitOnP fun c => c == '/' || c == '\\'
  (follow [] segments).foldl (fun length segment =>
    length + 1 + escapedLength "\"#<>?\x60\x7b\x7d" segment) 0

/-! ## Addresses -/

structure Parts where
  scheme : String
  host : List Char
  port : List Char
  path : List Char
  /-- The query with its question mark. -/
  query : List Char
  /-- The fragment with its number sign. -/
  fragment : List Char

/-- Splits off the port, which stands behind the last colon outside brackets. -/
def splitPort (cs : List Char) : List Char × List Char :=
  match cs with
  | '[' :: _ =>
    let (inside, behind) := splitAt (· == ']') cs
    match behind with
    | ']' :: ':' :: port => (inside ++ [']'], port)
    | ']' :: [] => (inside ++ [']'], [])
    | _ => (cs, [])
  | cs =>
    let (host, behind) := splitAt (· == ':') cs
    (host, behind.drop 1)

/-- What stands behind the last at sign. -/
def afterUserInfo (cs : List Char) : List Char := (cs.reverse.takeWhile (· != '@')).reverse

/-- The parts of an address. Line breaks and tabs do not count, nor do blanks at its start. -/
def Parts.ofText? (address : String) : Option Parts :=
  let cs := address.toList.filter fun c => c != '\t' && c != '\n' && c != '\r'
  let (scheme, cs) := splitAt (· == ':') (cs.dropWhile fun c => c.toNat ≤ 0x20)
  if cs.isEmpty then none
  else
    let cs := (cs.drop 1).dropWhile fun c => c == '/' || c == '\\'
    let (cs, fragment) := splitAt (· == '#') cs
    let (cs, query) := splitAt (· == '?') cs
    let (authority, path) := splitAt (fun c => c == '/' || c == '\\') cs
    let (host, port) := splitPort (afterUserInfo authority)
    some ⟨String.ofList (scheme.map Char.toLower), host, port, path, query, fragment⟩

/-- The port of a scheme, if the scheme is one of the two. -/
def schemePort? (scheme : String) : Option Nat :=
  if scheme == "http" then some 80 else if scheme == "https" then some 443 else none

/-- The length of an address with sound parts. The port of the scheme is not written. -/
def Parts.length (parts : Parts) (host : List Char) (schemePort port : Nat) : Nat :=
  let portLength := if port = schemePort then 0 else 1 + (Decimal.digits port).length
  parts.scheme.length + 3 + host.length + portLength + pathLength parts.path
    + escapedLength "\"#<>'" (parts.query.drop 1) + min 1 parts.query.length
    + escapedLength "\"<>\x60" (parts.fragment.drop 1) + min 1 parts.fragment.length

/-- The length that no address of a request exceeds. -/
def maxLength : Nat := 65534

/-- A request can be sent to this address. -/
def isUsable (address : String) : Bool :=
  let usable : Option Bool := do
    let parts ← Parts.ofText? address
    let schemePort ← schemePort? parts.scheme
    let host ← host? parts.host
    let port ← port? schemePort parts.port
    return parts.length host schemePort port ≤ maxLength
  usable.getD false

end Progression.Gateway.Url
