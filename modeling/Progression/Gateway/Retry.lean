-- Calls with retries. An attempt that fails ambiguously is made again
-- after a pause, as long as there are attempts left; any other outcome
-- ends the call.
import Progression.Backoff
import Progression.Fault
import Progression.Json.Tree

namespace Progression.Gateway

/-- A request on the wire. -/
structure WireRequest where
  method : String
  url : String
  body : Option Json

/-- The body of a response as it was read: its bytes, and the text that they are taken for, which
depends on what the response says of its characters. -/
structure Content where
  bytes : List UInt8
  text : String

/-- The body of a response, or where the reading of it broke off. -/
abbrev Payload := Except (TransportClass × String) Content

/-- What comes of one attempt. -/
inductive Attempt where
  | response (status : Nat) (body : Payload)
  | timedOut
  | broken (cls : TransportClass) (text : String)

/-- The text of the body of a rejection; empty if it cannot be read. -/
def Payload.text : Payload → String
  | .ok content => content.text
  | .error _ => ""

/-- What the attempt of that number means: the body of a good response, or a fault. -/
def Attempt.verdict (operation : String) (number : Nat) : Attempt → Except PaymentFault Payload
  | .response status body =>
    if 200 ≤ status ∧ status ≤ 299 then .ok body
    else .error (.rejected operation status body.text)
  | .timedOut => .error (.timeout number)
  | .broken cls text => .error (.transport cls text)

/-- What comes of each attempt of a call, the first one being number one. -/
abbrev Network := Nat → WireRequest → Attempt

/-- A call that has ended: its result, the requests that were sent, and the pauses between them. -/
structure Sent where
  result : Except PaymentFault Payload
  requests : List WireRequest
  pauses : List Span

/-- A call that went on after a request and a pause. -/
def Sent.after (request : WireRequest) (pause : Span) (sent : Sent) : Sent :=
  { sent with requests := request :: sent.requests, pauses := pause :: sent.pauses }

/-- A failed attempt is worth another one. -/
def isRetried (result : Except PaymentFault Payload) : Bool :=
  match result with
  | .ok _ => false
  | .error fault => fault.isAmbiguous

/-- Makes attempt `number` and, where that is worth it, at most `left` more. -/
def sendFrom (operation : String) (request : WireRequest) (network : Network) :
    (left number : Nat) → Sent
  | 0, number => ⟨(network number request).verdict operation number, [request], []⟩
  | left + 1, number =>
    let result := (network number request).verdict operation number
    if isRetried result then
      (sendFrom operation request network left (number + 1)).after request (retryDelay number)
    else ⟨result, [request], []⟩

/-- A call with that many retries, all of them with the same request. -/
def send (operation : String) (request : WireRequest) (retries : UInt32) (network : Network) :
    Sent :=
  sendFrom operation request network (attemptsOf retries - 1) 1

end Progression.Gateway
