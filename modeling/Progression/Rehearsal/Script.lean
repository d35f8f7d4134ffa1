-- Scripts: what a rehearsal does step by step, and what each step comes
-- to. Steps ask the service, send requests, let time pass, disturb the
-- collaborators and change what they hold.
import Progression.Http.Router
import Progression.Rehearsal.Performance

namespace Progression.Rehearsal

/-- A question to the service. -/
inductive Question where
  | create (user : UserId)
  | level (user : UserId)
  | profile (user : UserId)
  | skins (user : UserId)
  | prices
  | changeSkin (user : UserId) (skin : SkinId)
  | levelUp (user : UserId)
deriving DecidableEq, Repr

/-- The plan that answers a question, with the answer as a JSON value. -/
def Question.plan (lifetimes : Lifetimes) : Question → Plan (Except Refusal Json)
  | .create user => (Service.createCharacter user).map (Except.map fun _ => .null)
  | .level user => (Service.level lifetimes user).map (Except.map encode)
  | .profile user => (Service.profile lifetimes user).map (Except.map encode)
  | .skins user => (Service.skins lifetimes user).map (Except.map encode)
  | .prices => (Service.prices lifetimes).map (Except.map encode)
  | .changeSkin user skin => (Service.changeSkin lifetimes user skin).map (Except.map fun _ => .null)
  | .levelUp user => (Service.levelUp lifetimes user).map (Except.map LevelUpOutcome.summary)

/-- What a step does. -/
inductive Action where
  | ask (question : Question)
  /-- Several level-ups at once. -/
  | levelUps (users : List UserId)
  | send (request : Http.Request)
  | wait (millis : Nat)
  | disturb (point : Point) (disturbance : Option Disturbance)
  | setCharacter (user : UserId) (character : Option Character)
  | setAccount (user : UserId) (account : Account)
  | setPrices (prices : List LevelPrice)
  | setSkins (skins : List Skin)
  | setEntry (key : String) (text : Option String)

structure Step where
  action : Action
  /-- The caller goes away after so many milliseconds. -/
  leave : Option Nat

/-- What a step comes to. -/
inductive Result where
  | nothing
  | answer (answer : Except Refusal Json)
  | answers (answers : List (Except Refusal Json))
  | response (response : Http.Response)
  | broken (message : String)
  | dropped

/-- The service under rehearsal: its settings as far as they matter. -/
structure Setup where
  lifetimes : Lifetimes
  deadline : Span

namespace Stage

/-- A change of what the collaborators hold, or of what disturbs them. -/
def change (stage : Stage) : Action → Stage
  | .disturb point (some d) =>
    { stage with disturbances := stage.disturbances.put point d }
  | .disturb point none => { stage with disturbances := stage.disturbances.erase point }
  | .setCharacter user (some c) => { stage with world := stage.world.putCharacter user c }
  | .setCharacter user none =>
    { stage with
      world := { stage.world with characters := stage.world.characters.erase user } }
  | .setAccount user a =>
    { stage with world := { stage.world with accounts := stage.world.accounts.put user a } }
  | .setPrices prices => { stage with world := { stage.world with prices } }
  | .setSkins skins => { stage with world := { stage.world with skins } }
  | .setEntry key (some text) =>
    { stage with world := { stage.world with cache := stage.world.cache.put key text } }
  | .setEntry key none =>
    { stage with world := { stage.world with cache := stage.world.cache.erase key } }
  | _ => stage

/-- What an ending means for a step whose answers have that meaning. -/
def resultOf {α : Type} (meaning : List α → Result) : Ending α → Result
  | .answered answers => meaning answers
  | .broken message => .broken message
  | .overdue => .response Http.timedOut
  | .dropped | .stuck => .dropped

/-- Carries out one step. -/
def act (setup : Setup) (stage : Stage) (step : Step) : Result × Stage :=
  match step.action with
  | .ask question =>
    let (ending, stage) := stage.performAll [question.plan setup.lifetimes] none step.leave none
    (resultOf (fun | answer :: _ => .answer answer | [] => .nothing) ending, stage)
  | .levelUps users =>
    let plans := users.map fun user => (Question.levelUp user).plan setup.lifetimes
    let (ending, stage) := stage.performAll plans none step.leave none
    (resultOf .answers ending, stage)
  | .send request =>
    let (ending, stage) := stage.performAll [Http.respond setup.lifetimes request]
      (some setup.deadline.wholeMillis) step.leave none
    (resultOf (fun | response :: _ => .response response | [] => .nothing) ending, stage)
  | .wait millis =>
    let (ending, stage) :=
      stage.performAll ([] : List (Plan Unit)) none step.leave (some millis)
    (resultOf (fun _ => .nothing) ending, stage)
  | action => (.nothing, stage.change action)

end Stage

/-- What is seen of a step: its result, the calls that began, the time it took, and the world. -/
structure Observation where
  result : Result
  calls : List String
  elapsedMillis : Nat
  world : World

/-- Carries out steps one after another. -/
def rehearse (setup : Setup) (stage : Stage) : List Step → List Observation
  | [] => []
  | step :: steps =>
    let (result, after) := Stage.act setup { stage with lines := [] } step
    { result
      calls := after.lines.reverse
      elapsedMillis := after.now - stage.now
      world := after.world } :: rehearse setup after steps

end Progression.Rehearsal
