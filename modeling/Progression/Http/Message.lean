-- Requests and responses as far as the service sees them, and the log of
-- failed requests.
import Progression.Bytes
import Progression.Json.Tree

namespace Progression.Http

/-- Named header values, in the order in which they were set. Names are in lower case. -/
abbrev Headers := List (String × String)

namespace Headers

/-- The first value of a name. -/
def first? (headers : Headers) (name : String) : Option String := headers.lookup name

def has (headers : Headers) (name : String) : Bool := (headers.first? name).isSome

def remove (headers : Headers) (name : String) : Headers :=
  headers.filter fun header => header.1 != name

end Headers

structure Request where
  method : String
  /-- What comes before the question mark. -/
  path : String
  /-- What comes after the question mark, if there is one. -/
  query : Option String
  headers : Headers
  body : List UInt8
deriving DecidableEq, Repr

/-- A target without the scheme and the authority that an absolute one has in front. -/
def withoutAuthority (target : List Char) : List Char :=
  if target.head? == some '/' || target == ['*'] then target
  else
    let rest := ((target.dropWhile (· != ':')).drop 3).dropWhile fun c => c != '/' && c != '?'
    if rest.head? == some '/' then rest else '/' :: rest

/-- A request for a target: a path, and a query behind a question mark. What follows a number
sign does not count. -/
def Request.ofTarget (method target : String) (headers : Headers) (body : List UInt8) : Request :=
  let target := withoutAuthority (target.toList.takeWhile (· != '#'))
  { method
    path := String.ofList (target.takeWhile (· != '?'))
    query := (target.dropWhile (· != '?')).tail?.map String.ofList
    headers := headers.map fun header => (header.1.toLower, header.2)
    body }

/-- A body: its bytes, or chunks that come one by one, where a chunk may fail. -/
inductive Body where
  | whole (bytes : List UInt8)
  | chunks (list : List (Option (List UInt8)))
deriving DecidableEq, Repr

namespace Body

def empty : Body := .whole []

/-- All bytes of a body, unless a chunk fails. -/
def read? : Body → Option (List UInt8)
  | .whole bytes => some bytes
  | .chunks list => (list.mapM id).map List.flatten

/-- The length of a body, if it is known before the body is read. -/
def length? : Body → Option Nat
  | .whole bytes => some bytes.length
  | .chunks _ => none

end Body

structure Response where
  status : Nat
  headers : Headers
  body : Body
deriving DecidableEq, Repr

def contentType : String := "content-type"

def contentLength : String := "content-length"

namespace Response

/-- A response with nothing but a status. -/
def bare (status : Nat) : Response := ⟨status, [], .empty⟩

def text (status : Nat) (message : String) : Response :=
  ⟨status, [(contentType, "text/plain; charset=utf-8")], .whole (Utf8.encode message)⟩

def json (status : Nat) (value : Json) : Response :=
  ⟨status, [(contentType, "application/json")], .whole (Utf8.encode value.render)⟩

def withHeader (response : Response) (name value : String) : Response :=
  { response with headers := response.headers ++ [(name, value)] }

/-- States the length of the body, if it is known and not yet stated. -/
def sized (response : Response) : Response :=
  match response.body.length? with
  | some length =>
    if response.headers.has contentLength then response
    else response.withHeader contentLength (toString length)
  | none => response

end Response

/-! ## The log of failed requests

The body of a response with a server error is read for the log and put back; a body that is too long
or breaks off is given up, and the response goes out without one. -/

/-- The most bytes of a body that the log reads. -/
def logLimit : Nat := 4096

def isServerError (status : Nat) : Bool := 500 ≤ status && status ≤ 599

/-- The bytes of a body of at most `limit` bytes. -/
def Body.readUpTo? (limit : Nat) (body : Body) : Option (List UInt8) :=
  body.read?.filter fun bytes => bytes.length ≤ limit

/-- A response as it leaves the log. The length that it states is taken back with the old body. -/
def Response.logged (response : Response) : Response :=
  if isServerError response.status then
    match response.body.readUpTo? logLimit with
    | some bytes =>
      { response with headers := response.headers.remove contentLength, body := .whole bytes }
    | none => { response with body := .empty }
  else response

theorem Response.status_logged (response : Response) : response.logged.status = response.status := by
  unfold Response.logged
  split
  · split <;> rfl
  · rfl

theorem Response.logged_of_not_serverError {response : Response}
    (h : isServerError response.status = false) : response.logged = response := by
  simp [Response.logged, h]

end Progression.Http
