-- The routes of the service. A request that names its player badly is
-- turned away before any collaborator is asked; every other answer is the
-- service's, in an envelope.
import Progression.Http.Form
import Progression.Http.MediaType
import Progression.Http.Message
import Progression.LevelUp

namespace Progression.Http

/-- The questions that the service answers over HTTP. -/
inductive Endpoint where
  | create
  | level
  | profile
  | skins
  | prices
  | levelUp
  | activeSkin
deriving DecidableEq, Repr

namespace Endpoint

def all : List Endpoint := [.create, .level, .profile, .skins, .prices, .levelUp, .activeSkin]

/-- The path that all endpoints share. -/
def base : String := "/api/characters"

def path : Endpoint → String
  | .create => base ++ "/create"
  | .level => base ++ "/level"
  | .profile => base ++ "/profile"
  | .skins => base ++ "/skins"
  | .prices => base ++ "/level-prices"
  | .levelUp => base ++ "/level-up"
  | .activeSkin => base ++ "/active-skin"

/-- The endpoint at exactly that path. -/
def ofPath? (path : String) : Option Endpoint := all.find? fun endpoint => endpoint.path == path

/-- An endpoint that changes something is posted to; the others are read. -/
def isPosted : Endpoint → Bool
  | .create | .levelUp | .activeSkin => true
  | _ => false

def methods (endpoint : Endpoint) : List String :=
  if endpoint.isPosted then ["POST"] else ["GET", "HEAD"]

/-- The methods as the `allow` header lists them. -/
def allow (endpoint : Endpoint) : String := String.intercalate "," endpoint.methods

end Endpoint

/-! ## Reading requests -/

/-- A body may not be longer than two mebibytes. -/
def bodyLimit : Nat := 2097152

/-- Reads a JSON body: its type is looked at first, then its length, then its text. -/
def readBody {α : Type} (read : List Json.Glyph → Except FormFault α) (request : Request) :
    Except Response α :=
  if !saysJson (request.headers.first? contentType) then
    .error (.text 415 "Expected request with `Content-Type")
  else if bodyLimit < request.body.length then
    .error (.text 413 "Failed to buffer the request body")
  else
    match read (Utf8.glyphs request.body) with
    | .ok a => .ok a
    | .error .form => .error (.text 400 "Failed to parse the request body as JSON")
    | .error .content =>
      .error (.text 422 "Failed to deserialize the JSON body into the target type")

/-- Reads the player from the query. -/
def readQuery (request : Request) : Except Response UserId :=
  match queriedUser? request.query with
  | some user => .ok user
  | none => .error (.text 400 "Failed to deserialize query string")

/-! ## Answering -/

/-- A verdict as a response. -/
def ofVerdict {α : Type} [Coded α] (verdict : Verdict α) : Response :=
  .json verdict.status (encode verdict.envelope)

/-- The verdict on a plan's answer, its data in the form that the route shows. -/
def verdictOf {α β : Type} (form : α → β) (plan : Plan (Except Refusal α)) : Plan (Verdict β) :=
  plan.map fun result => .ofExcept (result.map form)

namespace Handler

/-- Asks the service about a player, unless the number is missing. -/
def forUser {β : Type} (user : UserId) (plan : Plan (Verdict β)) : Plan (Verdict β) :=
  if user = 0 then .done (.required "user_id") else plan

def create (user : UserId) : Plan (Verdict Done) :=
  forUser user (verdictOf (fun _ => ⟨true⟩) (Service.createCharacter user))

def level (lifetimes : Lifetimes) (user : UserId) : Plan (Verdict LevelAnswer) :=
  forUser user (verdictOf LevelAnswer.mk (Service.level lifetimes user))

def profile (lifetimes : Lifetimes) (user : UserId) : Plan (Verdict Profile) :=
  forUser user (verdictOf id (Service.profile lifetimes user))

def skins (lifetimes : Lifetimes) (user : UserId) : Plan (Verdict (List Skin)) :=
  forUser user (verdictOf SkinList.skins (Service.skins lifetimes user))

def prices (lifetimes : Lifetimes) : Plan (Verdict (List LevelPrice)) :=
  verdictOf PriceList.prices (Service.prices lifetimes)

def levelUp (lifetimes : Lifetimes) (user : UserId) : Plan (Verdict LevelUpAnswer) :=
  forUser user (verdictOf (LevelUpAnswer.mk true) (Service.levelUp lifetimes user))

def activeSkin (lifetimes : Lifetimes) (user : UserId) (skin : SkinId) : Plan (Verdict Done) :=
  forUser user
    (if skin = 0 then .done (.required "skin_id")
    else verdictOf (fun _ => ⟨true⟩) (Service.changeSkin lifetimes user skin))

end Handler

/-- Answers with a verdict, unless the request could not be read. -/
def respondTo {α β : Type} [Coded β] (read : Except Response α) (answer : α → Plan (Verdict β)) :
    Plan Response :=
  match read with
  | .ok a => (answer a).map ofVerdict
  | .error response => .done response

/-- The answer of an endpoint to a request that has its method. -/
def Endpoint.answer (lifetimes : Lifetimes) (request : Request) : Endpoint → Plan Response
  | .create => respondTo (readBody readUser request) Handler.create
  | .level => respondTo (readQuery request) (Handler.level lifetimes)
  | .profile => respondTo (readQuery request) (Handler.profile lifetimes)
  | .skins => respondTo (readQuery request) (Handler.skins lifetimes)
  | .prices => (Handler.prices lifetimes).map ofVerdict
  | .levelUp => respondTo (readBody readUser request) (Handler.levelUp lifetimes)
  | .activeSkin =>
    respondTo (readBody readUserAndSkin request) fun named =>
      Handler.activeSkin lifetimes named.1 named.2

/-! ## The router -/

/-- Everybody may read every response. -/
def Response.shared (response : Response) : Response :=
  response.withHeader "access-control-allow-origin" "*"

/-- A response that tells which methods a path has, if it has any. -/
def Response.allowing (response : Response) (endpoint : Option Endpoint) : Response :=
  match endpoint with
  | some endpoint => response.withHeader "allow" endpoint.allow
  | none => response

/-- The response to a question for the head only: everything but the body. -/
def Response.headOnly (response : Response) : Response := { response with body := .empty }

/-- The response to a request, before it is shared. A question for the options is answered
without the endpoint. -/
def route (lifetimes : Lifetimes) (request : Request) : Plan Response :=
  let endpoint := Endpoint.ofPath? request.path
  if request.method = "OPTIONS" then .done ((Response.bare 200).allowing endpoint)
  else
    match endpoint with
    | none => .done (.bare 404)
    | some e =>
      if request.method ∈ e.methods then (e.answer lifetimes request).map Response.logged
      else .done ((Response.bare 405).allowing endpoint)

/-- The response to a request. -/
def respond (lifetimes : Lifetimes) (request : Request) : Plan Response :=
  (route lifetimes request).map fun response =>
    let response := response.shared.sized
    if request.method = "HEAD" then response.headOnly else response

/-- The response to a request whose deadline has passed. -/
def timedOut : Response := (Response.bare 408).shared.sized

end Progression.Http
