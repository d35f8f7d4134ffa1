-- The payment gateway over HTTP: the request of each call, and what the
-- response to it means.
import Progression.Bytes
import Progression.Gateway.Retry
import Progression.Gateway.Url
import Progression.Json.Coded
import Progression.Plan
import Progression.Settings

namespace Progression

/-- `count` digits of base sixteen, the last ones of a number. -/
def hexDigits (count n : Nat) : List Char :=
  match count with
  | 0 => []
  | count + 1 => hexDigits count (n / 16) ++ [Json.hexDigit (n % 16)]

/-- The written form of a payment id: 32 digits in groups of 8, 4, 4, 4 and 12. -/
def PaymentId.uuid (payment : PaymentId) : String :=
  let n := payment.number
  String.ofList (hexDigits 8 (n >>> 96) ++ '-' :: hexDigits 4 (n >>> 80) ++ '-' ::
    hexDigits 4 (n >>> 64) ++ '-' :: hexDigits 4 (n >>> 48) ++ '-' :: hexDigits 12 n)

namespace Gateway

/-- Where the gateway's services are and how often a call is retried. -/
structure Client where
  userServiceUrl : String
  referralServiceUrl : String
  retries : UInt32

/-- An address without the slashes at its end. -/
def withoutSlashes (url : String) : String := String.ofList (dropEndWhile (· == '/') url.toList)

def Client.ofSettings (s : Settings) : Client :=
  ⟨withoutSlashes s.userServiceUrl, withoutSlashes s.referralServiceUrl, s.clientRetries⟩

/-- The name of a call in its rejections. -/
def operationOf : GatewayCall → String
  | .balance _ => "get_coins_balance"
  | .referrals _ => "get_referrals_count"
  | .initiate .. => "initiate_payment"
  | .finalize .. => "finalize_payment"

/-- The request of a call. It is the same for every attempt. -/
def Client.request (client : Client) : GatewayCall → WireRequest
  | .balance user => ⟨"GET", client.userServiceUrl ++ "/users/" ++ toString user ++ "/coins", none⟩
  | .referrals user =>
    ⟨"GET", client.referralServiceUrl ++ "/referrals/" ++ toString user ++ "/count", none⟩
  | .initiate user amount payment =>
    ⟨"POST", client.userServiceUrl ++ "/payments/initiate",
      some (.record [("user_id", encode user), ("amount", encode amount),
        ("transaction_id", .text payment.uuid)])⟩
  | .finalize payment spend =>
    ⟨"POST", client.userServiceUrl ++ "/payments/finalize",
      some (.record [("payment_id", .text payment.uuid), ("complete", encode spend)])⟩

/-- The number under that name in a body. -/
def numberIn (name : String) (body : Payload) : Except PaymentFault Int64 :=
  match body with
  | .error (cls, text) => .error (.transport cls text)
  | .ok content =>
    match (Json.ofGlyphs? (Utf8.glyphs content.bytes)).bind (Json.fields? [name]) with
    | some [some value] =>
      match decode? value with
      | some n => .ok n
      | none => .error (.transport .decode "error decoding response body")
    | _ => .error (.transport .decode "error decoding response body")

/-- What the body of a good response means. Settlements need none. -/
def answerOf : (call : GatewayCall) → Payload → Except PaymentFault call.Answer
  | .balance _, body => numberIn "coins" body
  | .referrals _, body => numberIn "count" body
  | .initiate .., _ => .ok ()
  | .finalize .., _ => .ok ()

/-- The exchange of a call over a network. -/
def Client.exchange (client : Client) (call : GatewayCall) (network : Network) : Sent :=
  send (operationOf call) (client.request call) client.retries network

/-- The answer to a call over a network. That a request cannot be sent to its address shows in what
comes of its attempts, as any other fault does. -/
def Client.ask (client : Client) (call : GatewayCall) (network : Network) :
    Except PaymentFault call.Answer :=
  match (client.exchange call network).result with
  | .ok body => answerOf call body
  | .error fault => .error fault

/-- A network that can be reached at usable addresses only. -/
def reachable (usable : String → Bool) (network : Network) : Network := fun number request =>
  if usable request.url then network number request
  else .broken .builder "builder error"

/-- The answer to a call over a network that can be reached at usable addresses only. -/
def Client.call (client : Client) (call : GatewayCall) (network : Network)
    (usable : String → Bool := Url.isUsable) : Except PaymentFault call.Answer :=
  client.ask call (reachable usable network)

end Gateway

end Progression
