-- Performances: plans that a caller waits for, all on one thread, while
-- detached tasks run whenever the caller waits. The caller goes on only
-- when it is woken. The clock stands still until everything waits, and then
-- goes to the next alarm.
import Progression.Rehearsal.Stage

namespace Progression.Rehearsal

/-! ## What an activity waits for -/

/-- The alarms that an activity waits for. -/
def Activity.alarms {α : Type} : Activity α → List Alarm
  | .ready _ | .over _ | .awaiting .. => []
  | .waiting alarm .. => [alarm]
  | .sideBySide _ left right _ => left.alarms ++ right.alarms

/-- Compares two cues: the time comes first, and then the order within it. -/
def comesFirst (a b : Nat × Nat) : Bool := a.1 < b.1 || (a.1 == b.1 && a.2 ≤ b.2)

/-- The first cue of an activity, if it has been woken. Of two cues the one with the lower pair came
first; alarms and the ends of tasks are never looked at together, so these need no order. -/
def Activity.cue? {α : Type} (stage : Stage) : Activity α → Option (Nat × Nat)
  | .ready _ => some (0, 0)
  | .over _ => none
  | .waiting alarm .. => if alarm.due ≤ stage.now then some (alarm.due, alarm.order) else none
  | .awaiting task _ =>
    let others := stage.ended.dropWhile fun entry => entry.1 != task
    if others.isEmpty then none else some (0, others.length)
  | .sideBySide _ left right _ =>
    match left.cue? stage, right.cue? stage with
    | some l, some r => some (if comesFirst l r then l else r)
    | some l, none => some l
    | none, r => r

/-- Something that an activity waits for has come. -/
def Activity.canGoOn {α : Type} (stage : Stage) (activity : Activity α) : Bool :=
  (activity.cue? stage).isSome

/-- The answer of an activity that is over. -/
def Activity.answer? {α : Type} : Activity α → Option α
  | .over (.answered a) => some a
  | _ => none

/-! ## Detached tasks -/

namespace Stage

/-- The result of a task that is over; none if it broke. -/
def taskResult : Outcome TaskResult → Option TaskResult
  | .answered result => some result
  | .broken _ => none

/-- Runs a task that is ready. -/
def runTask (stage : Stage) (number : Nat) : Stage :=
  match stage.tasks.find? fun task => task.number == number with
  | none => stage
  | some task =>
    let (activity, stage) := resume task.activity stage
    match activity with
    | .over outcome =>
      { stage with
        tasks := stage.tasks.filter fun task => task.number != number
        ended := (number, taskResult outcome) :: stage.ended }
    | activity =>
      { stage with
        tasks := stage.tasks.map fun task =>
          if task.number = number then { task with activity } else task }

/-- The most tasks that run before the caller gets its turn. -/
def tasksPerTurn : Nat := 61

/-- Runs tasks that are ready, in the order in which they became ready. -/
def runReady (stage : Stage) : Stage :=
  (stage.ready.take tasksPerTurn).foldl runTask
    { stage with ready := stage.ready.drop tasksPerTurn }

/-- The alarms of the tasks, with the numbers of their tasks. -/
def taskAlarms (stage : Stage) : List (Alarm × Nat) :=
  stage.tasks.flatMap fun task => task.activity.alarms.map fun alarm => (alarm, task.number)

/-- Moves the clock, and makes the tasks ready whose alarms go off. -/
def advance (stage : Stage) (now : Nat) : Stage :=
  let due := stage.taskAlarms.filter fun entry => entry.1.due ≤ now
  let due := due.mergeSort fun a b => comesFirst (a.1.due, a.1.order) (b.1.due, b.1.order)
  { stage with now, ready := stage.ready ++ (due.map Prod.snd).eraseDups }

end Stage

/-! ## Performances -/

/-- How a performance ends for the one who waits for it. -/
inductive Ending (α : Type) where
  | answered (answers : List α)
  | broken (message : String)
  /-- Its deadline passed. -/
  | overdue
  /-- The caller went away. -/
  | dropped
  /-- It waits for something that never comes. -/
  | stuck
deriving Repr

/-- Plans that a caller waits for. -/
structure Performance (α : Type) where
  parts : List (Activity α)
  /-- The alarm that ends it before its parts are looked at. -/
  deadline : Option Alarm
  /-- The alarm after which the caller goes away, unless the parts are all over. -/
  leave : Option Alarm
  /-- The alarm before which it does not end. -/
  rest : Option Alarm

namespace Performance

variable {α : Type}

def alarms (p : Performance α) : List Alarm :=
  p.parts.flatMap Activity.alarms ++ p.deadline.toList ++ p.leave.toList ++ p.rest.toList

/-- An alarm that was set has gone off. -/
def isOff (stage : Stage) (alarm : Option Alarm) : Bool :=
  match alarm with
  | some alarm => alarm.due ≤ stage.now
  | none => false

/-- The most parts that are all resumed whenever one of them is woken. -/
def resumedTogether : Nat := 30

/-- The places of the parts that are resumed, in their order. Few parts are all resumed; of many,
those that can go on are, in the order in which they were woken. -/
def places (parts : List (Activity α)) (stage : Stage) : List Nat :=
  if parts.length ≤ resumedTogether then List.range parts.length
  else
    let cues := (parts.map (Activity.cue? stage)).zipIdx.filterMap fun (cue, place) =>
      cue.map fun cue => (cue, place)
    (cues.mergeSort fun a b => comesFirst a.1 b.1).map Prod.snd

/-- Resumes the parts at some places; stops at one that breaks. -/
def resumeParts : (places : List Nat) → List (Activity α) → Stage →
    Except String (List (Activity α)) × Stage
  | [], parts, stage => (.ok parts, stage)
  | place :: places, parts, stage =>
    match parts[place]? with
    | none => resumeParts places parts stage
    | some part =>
      let (part, stage) := resume part stage
      match part with
      | .over (.broken message) => (.error message, stage)
      | part => resumeParts places (parts.set place part) stage

/-- The answers of the parts, once all are over and the rest is done. -/
def answers? (p : Performance α) (stage : Stage) : Option (List α) :=
  if p.rest.isSome && !isOff stage p.rest then none else p.parts.mapM Activity.answer?

/-- Wakes a performance: it has ended, or goes on waiting. -/
def step (p : Performance α) (stage : Stage) : Option (Ending α) × Performance α × Stage :=
  if isOff stage p.deadline then (some .overdue, p, stage)
  else
    match resumeParts (places p.parts stage) p.parts stage with
    | (.error message, stage) => (some (.broken message), p, stage)
    | (.ok parts, stage) =>
      let p := { p with parts }
      match p.answers? stage with
      | some answers => (some (.answered answers), p, stage)
      | none => if isOff stage p.leave then (some .dropped, p, stage) else (none, p, stage)

/-- Something that a performance waits for has come. -/
def canGoOn (p : Performance α) (stage : Stage) : Bool :=
  p.parts.any (Activity.canGoOn stage) || isOff stage p.deadline || isOff stage p.leave
    || isOff stage p.rest

/-- The time of the next alarm of the performance or of a task. -/
def nextAlarm? (p : Performance α) (stage : Stage) : Option Nat :=
  ((p.alarms ++ stage.taskAlarms.map Prod.fst).map Alarm.due).min?

/-- Lets tasks run and the clock move until something has come that the performance waits for.
What the clock brings to both comes to the performance first. -/
def idle : (rounds : Nat) → Performance α → Stage → Option Stage
  | 0, _, _ => none
  | rounds + 1, p, stage =>
    let stage := stage.runReady
    if p.canGoOn stage then some stage
    else if !stage.ready.isEmpty then idle rounds p stage
    else
      match p.nextAlarm? stage with
      | none => none
      | some now =>
        let stage := stage.advance now
        if p.canGoOn stage then some stage else idle rounds p stage

/-- Performs with at most `rounds` wake-ups. The performance is woken only when something has come
that it waits for. -/
def perform : (rounds : Nat) → Performance α → Stage → Ending α × Stage
  | 0, _, stage => (.stuck, stage)
  | rounds + 1, p, stage =>
    match p.step stage with
    | (some ending, _, stage) => (ending, stage)
    | (none, p, stage) =>
      match idle (rounds + 1) p stage with
      | some stage => perform rounds p stage
      | none => (.stuck, stage)

/-- More wake-ups than the plans of the service can have: each waits for fewer calls. -/
def enoughRounds (p : Performance α) (stage : Stage) : Nat :=
  64 * (p.parts.length + stage.tasks.length + 1)

/-- Performs to the end. -/
def play (p : Performance α) (stage : Stage) : Ending α × Stage :=
  perform (p.enoughRounds stage) p stage

end Performance

/-- Sets an alarm, if there is a delay. -/
def Stage.setAlarm? (stage : Stage) (delay : Option Nat) : Option Alarm × Stage :=
  match delay with
  | some delay => let (alarm, stage) := stage.setAlarm delay; (some alarm, stage)
  | none => (none, stage)

/-- Performs plans at once, with delays in milliseconds for the deadline, the caller's patience
and the rest. -/
def Stage.performAll {α : Type} (stage : Stage) (plans : List (Plan α))
    (deadline leave rest : Option Nat) : Ending α × Stage :=
  let (deadline, stage) := stage.setAlarm? deadline
  let (leave, stage) := stage.setAlarm? leave
  let (rest, stage) := stage.setAlarm? rest
  Performance.play ⟨plans.map Activity.ready, deadline, leave, rest⟩ stage

end Progression.Rehearsal
