-- Plans on a stage: the world, a clock that moves only while everything
-- waits, and one thread on which a plan runs until it waits. A plan that
-- waits is kept as an activity, which is resumed when it is woken.
import Progression.Rehearsal.Disturbance

namespace Progression.Rehearsal

/-- How an activity ends: with an answer, or broken. -/
inductive Outcome (α : Type) where
  | answered (answer : α)
  | broken (message : String)
deriving Repr

/-- An alarm of the clock. Alarms of one time go off in the order in which they were set. -/
structure Alarm where
  due : Nat
  order : Nat
deriving DecidableEq, Repr

/-- A plan that is being carried out. -/
inductive Activity : Type → Type 1 where
  | ready {α : Type} (plan : Plan α) : Activity α
  | over {α : Type} (outcome : Outcome α) : Activity α
  /-- A call has begun and takes its time. -/
  | waiting {α : Type} (alarm : Alarm) (call : Call) (disturbance : Disturbance)
      (next : call.Reply → Plan α) : Activity α
  /-- Two plans run at once; each resumption begins with the other one. -/
  | sideBySide {α β γ ε : Type} (leftFirst : Bool) (left : Activity (Except ε β))
      (right : Activity (Except ε γ)) (next : Except ε (β × γ) → Plan α) : Activity α
  /-- A detached task is waited for. -/
  | awaiting {α : Type} (task : Nat) (next : Option TaskResult → Plan α) : Activity α

/-- A detached task that has not ended. -/
structure Task where
  number : Nat
  activity : Activity TaskResult

structure Stage where
  world : World
  disturbances : Table Point Disturbance
  /-- The record of the calls, the last one first. -/
  lines : List String
  now : Nat
  alarmsSet : Nat
  paymentsTaken : Nat
  tasksStarted : Nat
  tasks : List Task
  /-- The tasks that are ready to run, the first one first. -/
  ready : List Nat
  /-- What the tasks that have ended told. -/
  ended : List (Nat × Option TaskResult)

namespace Stage

def ofWorld (world : World) : Stage where
  world
  disturbances := .empty
  lines := []
  now := 0
  alarmsSet := 0
  paymentsTaken := 0
  tasksStarted := 0
  tasks := []
  ready := []
  ended := []

/-- A call begins: it is recorded, and it meets the disturbance of its kind, if there is one. -/
def begin (stage : Stage) (c : Call) : Disturbance × Stage :=
  let stage := { stage with lines := callLine c :: stage.lines }
  let point := Point.ofCall c
  match stage.disturbances.get? point with
  | none => (.none, stage)
  | some d =>
    let left := match d.met with
      | some d => stage.disturbances.put point d
      | none => stage.disturbances.erase point
    (d, { stage with disturbances := left })

/-- A call ends; no reply if it breaks. -/
def finish (stage : Stage) (c : Call) (d : Disturbance) : Option c.Reply × Stage :=
  let (reply, world) := stage.world.disturbed c d
  (reply, { stage with world })

def setAlarm (stage : Stage) (delay : Nat) : Alarm × Stage :=
  (⟨stage.now + delay, stage.alarmsSet⟩, { stage with alarmsSet := stage.alarmsSet + 1 })

def takePayment (stage : Stage) : PaymentId × Stage :=
  (⟨stage.paymentsTaken + 1⟩, { stage with paymentsTaken := stage.paymentsTaken + 1 })

def startTask (stage : Stage) (activity : Activity TaskResult) : Nat × Stage :=
  let number := stage.tasksStarted
  (number, { stage with
    tasksStarted := number + 1
    tasks := stage.tasks ++ [⟨number, activity⟩]
    ready := stage.ready ++ [number] })

end Stage

/-! ## Two plans at once -/

/-- What two plans at once have come to: the first break or fault of either ends both. -/
def joined {β γ ε : Type} :
    Activity (Except ε β) → Activity (Except ε γ) → Option (Outcome (Except ε (β × γ)))
  | .over (.broken message), _ => some (.broken message)
  | .over (.answered (.error e)), _ => some (.answered (.error e))
  | _, .over (.broken message) => some (.broken message)
  | _, .over (.answered (.error e)) => some (.answered (.error e))
  | .over (.answered (.ok b)), .over (.answered (.ok c)) => some (.answered (.ok (b, c)))
  | _, _ => none

/-- What a plan that runs beside another has come to, if it ends both by itself. -/
def halted {β γ ε : Type} : Activity (Except ε β) → Option (Outcome (Except ε γ))
  | .over (.broken message) => some (.broken message)
  | .over (.answered (.error e)) => some (.answered (.error e))
  | _ => none

/-! ## Running and resuming -/

/-- The message of a collaborator that breaks its caller. -/
def brokenCollaborator : String := "collaborator panicked"

/-- Carries a plan out until it waits or ends. A detached task is first only made ready. -/
def run {α : Type} : Plan α → Stage → Activity α × Stage
  | .done a, stage => (.over (.answered a), stage)
  | .overflow cause, stage => (.over (.broken cause.message), stage)
  | .newPayment next, stage =>
    let (payment, stage) := stage.takePayment
    run (next payment) stage
  | .call c next, stage =>
    let (d, stage) := stage.begin c
    if d.delayMillis = 0 then
      match stage.finish c d with
      | (some reply, stage) => run (next reply) stage
      | (none, stage) => (.over (.broken brokenCollaborator), stage)
    else
      let (alarm, stage) := stage.setAlarm d.delayMillis
      (.waiting alarm c d next, stage)
  | .detach task next, stage =>
    let (number, stage) := stage.startTask (.ready task)
    (.awaiting number next, stage)
  | .both left right next, stage =>
    let (l, stage) := run left stage
    match halted l with
    | some (.broken message) => (.over (.broken message), stage)
    | some (.answered result) => run (next result) stage
    | none =>
      let (r, stage) := run right stage
      match joined l r with
      | some (.broken message) => (.over (.broken message), stage)
      | some (.answered result) => run (next result) stage
      | none => (.sideBySide false l r next, stage)

/-- Goes on with the plan that two plans at once have come to, or waits on for them. -/
def proceed {α β γ ε : Type} (result : Option (Outcome (Except ε (β × γ))))
    (next : Except ε (β × γ) → Plan α) (waiting : Activity α) (stage : Stage) :
    Activity α × Stage :=
  match result with
  | some (.broken message) => (.over (.broken message), stage)
  | some (.answered answer) => run (next answer) stage
  | none => (waiting, stage)

/-- Wakes an activity. It goes on if what it waits for has come, and waits on otherwise. -/
def resume {α : Type} : Activity α → Stage → Activity α × Stage
  | .ready plan, stage => run plan stage
  | .over outcome, stage => (.over outcome, stage)
  | .waiting alarm c d next, stage =>
    if stage.now < alarm.due then (.waiting alarm c d next, stage)
    else
      match stage.finish c d with
      | (some reply, stage) => run (next reply) stage
      | (none, stage) => (.over (.broken brokenCollaborator), stage)
  | .awaiting task next, stage =>
    match stage.ended.lookup task with
    | some result => run (next result) stage
    | none => (.awaiting task next, stage)
  | .sideBySide true left right next, stage =>
    let (l, stage) := resume left stage
    match halted l with
    | some result => proceed (some result) next (.sideBySide false l right next) stage
    | none =>
      let (r, stage) := resume right stage
      proceed (joined l r) next (.sideBySide false l r next) stage
  | .sideBySide false left right next, stage =>
    let (r, stage) := resume right stage
    match halted r with
    | some result => proceed (some result) next (.sideBySide true left r next) stage
    | none =>
      let (l, stage) := resume left stage
      proceed (joined l r) next (.sideBySide true l r next) stage

end Progression.Rehearsal
