-- A calm stage: nothing disturbs a call, so every call is answered at
-- once. A plan goes on from call to call until it answers or detaches a
-- task; the task then runs to its end before its result is heard.
import Progression.Rehearsal.Script

namespace Progression.Rehearsal

/-- The world after some calls, one after another. -/
def World.after (w : World) (cs : List Call) : World := cs.foldl (fun w c => (w.perform c).2) w

theorem World.after_append (w : World) (cs ds : List Call) :
    w.after (cs ++ ds) = (w.after cs).after ds := List.foldl_append

namespace Stage

/-- No call will meet a disturbance. -/
def Undisturbed (stage : Stage) : Prop := ∀ point, stage.disturbances.get? point = none

/-- The stage after some calls that nothing has disturbed. -/
def after (stage : Stage) (cs : List Call) : Stage :=
  { stage with
    world := stage.world.after cs
    lines := (cs.map callLine).reverse ++ stage.lines }

theorem after_after (stage : Stage) (cs ds : List Call) :
    (stage.after cs).after ds = stage.after (cs ++ ds) := by
  unfold after
  simp only [World.after_append, List.map_append, List.reverse_append, List.append_assoc]

theorem Undisturbed.after {stage : Stage} (h : stage.Undisturbed) (cs : List Call) :
    (stage.after cs).Undisturbed := h

end Stage

/-! ## From call to call -/

variable {stage : Stage} {α β γ ε : Type}

theorem run_call (calm : stage.Undisturbed) (c : Call) (next : c.Reply → Plan α) :
    run (.call c next) stage = run (next (stage.world.perform c).1) (stage.after [c]) := by
  rw [run]
  simp only [Stage.begin, calm (Point.ofCall c), Disturbance.none, Stage.finish, World.disturbed]
  rfl

/-- The plan makes these calls, and what is left of it then is that plan, whatever follows. -/
structure Leads (stage : Stage) (cs : List Call) (p q : Plan α) : Prop where
  goes : ∀ {β : Type} (f : α → Plan β), run (p.bind f) stage = run (q.bind f) (stage.after cs)

namespace Leads

variable {cs ds : List Call} {p q r : Plan α}

theorem trans (h : Leads stage cs p q) (h' : Leads (stage.after cs) ds q r) :
    Leads stage (cs ++ ds) p r := by
  constructor
  intro β f
  rw [h.goes f, h'.goes f, Stage.after_after]

theorem bind (h : Leads stage cs p q) (f : α → Plan β) : Leads stage cs (p.bind f) (q.bind f) := by
  constructor
  intro γ g
  rw [Plan.bind_bind, Plan.bind_bind]
  exact h.goes fun a => (f a).bind g

theorem map (h : Leads stage cs p q) (f : α → β) : Leads stage cs (p.map f) (q.map f) :=
  h.bind _

theorem andThen {p q : Plan (Except ε α)} (h : Leads stage cs p q)
    (f : α → Plan (Except ε β)) : Leads stage cs (p.andThen f) (q.andThen f) := h.bind _

/-- A plan that begins with a call goes on with its reply. -/
theorem call {c : Call} {reply : c.Reply} {next : c.Reply → Plan α} (calm : stage.Undisturbed)
    (hp : p = .call c next) (hr : (stage.world.perform c).1 = reply) (hq : next reply = q) :
    Leads stage [c] p q := by
  subst hp hr hq
  constructor
  intro β f
  exact run_call calm c fun reply => (next reply).bind f

theorem run (h : Leads stage cs p q) : run p stage = run q (stage.after cs) := by
  have goes := h.goes Plan.done
  rwa [Plan.bind_done, Plan.bind_done] at goes

/-- Two plans at once, of which the first one answers and then the second one. -/
theorem both {left : Plan (Except ε β)} {right : Plan (Except ε γ)}
    {next : Except ε (β × γ) → Plan α} {b : β} {c : γ}
    (hl : Leads stage cs left (.done (.ok b)))
    (hr : Leads (stage.after cs) ds right (.done (.ok c))) :
    Leads stage (cs ++ ds) (.both left right next) (next (.ok (b, c))) := by
  constructor
  intro δ f
  simp only [Plan.bind, Rehearsal.run, hl.run, halted, hr.run, joined, Stage.after_after]

/-- Of two plans at once the first one fails. -/
theorem both_error {left : Plan (Except ε β)} {right : Plan (Except ε γ)}
    {next : Except ε (β × γ) → Plan α} {e : ε}
    (hl : Leads stage cs left (.done (.error e))) :
    Leads stage cs (.both left right next) (next (.error e)) := by
  constructor
  intro δ f
  simp only [Plan.bind, Rehearsal.run, hl.run, halted]

end Leads

/-! ## One plan that is waited for -/

/-- Nothing will disturb a call, and no task is running. -/
structure Stage.Calm (stage : Stage) : Prop where
  undisturbed : stage.Undisturbed
  tasks : stage.tasks = []
  ready : stage.ready = []

/-- The plan is waited for and answers after these calls, and all is calm again. -/
structure Stage.Performs (stage : Stage) (plan : Plan α) (cs : List Call) (a : α)
    (after : Stage) : Prop where
  performed : stage.performAll [plan] none none none = (.answered [a], after)
  calm : after.Calm
  world : after.world = stage.world.after cs
  lines : after.lines = (cs.map callLine).reverse ++ stage.lines

/-- The performance of one plan, without alarms. -/
def alone (part : Activity α) : Performance α := ⟨[part], none, none, none⟩

theorem performAll_one (plan : Plan α) (stage : Stage) :
    stage.performAll [plan] none none none = (alone (.ready plan)).play stage := rfl

theorem step_answered {part : Activity α} {a : α} {after : Stage}
    (h : resume part stage = (.over (.answered a), after)) :
    (alone part).step stage
      = (some (.answered [a]), alone (.over (.answered a)), after) := by
  simp [Performance.step, alone, Performance.isOff, Performance.places,
    Performance.resumedTogether, Performance.resumeParts, h, Performance.answers?,
    Activity.answer?, List.range_succ]

theorem step_awaiting {part : Activity α} {number : Nat} {next : Option TaskResult → Plan α}
    {after : Stage} (h : resume part stage = (.awaiting number next, after)) :
    (alone part).step stage = (none, alone (.awaiting number next), after) := by
  simp [Performance.step, alone, Performance.isOff, Performance.places,
    Performance.resumedTogether, Performance.resumeParts, h, Performance.answers?,
    Activity.answer?, List.range_succ]

namespace Stage

/-- The stage after so many payment ids were taken. -/
def taking (stage : Stage) (n : Nat) : Stage :=
  { stage with paymentsTaken := stage.paymentsTaken + n }

variable {cs ds : List Call} {plan : Plan α} {a : α} {task : Plan TaskResult}
  {next : Option TaskResult → Plan α} {result : TaskResult} {n : Nat}

theorem Calm.rounds (calm : stage.Calm) (part : Activity α) :
    (alone part).enoughRounds stage = 126 + 1 + 1 := by
  simp [Performance.enoughRounds, alone, calm.tasks]

/-- A plan that comes to its answer from call to call. -/
theorem Calm.answers (calm : stage.Calm) (leads : Leads stage cs plan (.done a)) :
    stage.Performs plan cs a (stage.after cs) := by
  refine ⟨?_, ⟨calm.undisturbed, calm.tasks, calm.ready⟩, rfl, rfl⟩
  have ran : resume (.ready plan) stage = (.over (.answered a), stage.after cs) := leads.run
  rw [performAll_one, Performance.play, calm.rounds, Performance.perform, step_answered ran]

/-- The stage once a task has ended: its result is known, and it is not run any more. -/
def ending (stage : Stage) (result : TaskResult) : Stage :=
  { stage with
    tasksStarted := stage.tasksStarted + 1
    ended := (stage.tasksStarted, some result) :: stage.ended }

/-- A task that is the only one runs to its end when the caller waits. -/
theorem Calm.runReady (calm : stage.Calm)
    (ran : ∀ s : Stage, s.Undisturbed → s.world = stage.world →
      s.paymentsTaken = stage.paymentsTaken →
      run task s = (.over (.answered result), (s.taking n).after ds)) :
    (stage.startTask (.ready task)).2.runReady = ((stage.taking n).after ds).ending result := by
  let opened : Stage := { (stage.startTask (.ready task)).2 with ready := [] }
  have go : run task opened = (.over (.answered result), (opened.taking n).after ds) :=
    ran opened calm.undisturbed rfl rfl
  have ready : (stage.startTask (.ready task)).2.ready = [stage.tasksStarted] := by
    simp [startTask, calm.ready]
  have tasks : opened.tasks = [⟨stage.tasksStarted, .ready task⟩] := by
    simp [opened, startTask, calm.tasks]
  unfold Stage.runReady
  rw [ready]
  show runTask opened stage.tasksStarted = _
  unfold runTask
  simp only [tasks, List.find?, beq_self_eq_true, resume, go]
  simp [opened, startTask, calm.tasks, calm.ready, ending, taking, after, taskResult]

/-- A plan that detaches a task and answers with what the task has come to. -/
theorem Calm.answers_detached (calm : stage.Calm)
    (leads : Leads stage cs plan (.detach task next))
    (ran : ∀ s : Stage, s.Undisturbed → s.world = stage.world.after cs →
      s.paymentsTaken = stage.paymentsTaken →
      run task s = (.over (.answered result), (s.taking n).after ds))
    (hnext : next (some result) = .done a) :
    ∃ after, stage.Performs plan (cs ++ ds) a after := by
  have calm' : (stage.after cs).Calm := ⟨calm.undisturbed, calm.tasks, calm.ready⟩
  let number := stage.tasksStarted
  have detached : resume (.ready plan) stage
      = (.awaiting number next, ((stage.after cs).startTask (.ready task)).2) := leads.run
  have ready := calm'.runReady ran
  let ended := (((stage.after cs).taking n).after ds).ending result
  have told : ended.ended.lookup number = some (some result) := by
    simp [ended, ending, number, taking, Stage.after]
  have resumed : resume (.awaiting number next) ended = (.over (.answered a), ended) := by
    simp only [resume, told, hnext, run]
  have woken : (alone (.awaiting number next)).canGoOn ended = true := by
    simp [Performance.canGoOn, alone, Activity.canGoOn, Activity.cue?, ended, ending, number,
      taking, Stage.after]
  have idle : Performance.idle (126 + 1 + 1) (alone (.awaiting number next))
      ((stage.after cs).startTask (.ready task)).2 = some ended := by
    rw [Performance.idle, ready, if_pos woken]
  refine ⟨ended, ?_, ⟨calm.undisturbed, calm.tasks, calm.ready⟩, ?_, ?_⟩
  · rw [performAll_one, Performance.play, calm.rounds, Performance.perform,
      step_awaiting detached]
    dsimp only
    rw [idle]
    dsimp only
    rw [Performance.perform, step_answered resumed]
  · exact (World.after_append ..).symm
  · simp [ended, ending, taking, Stage.after]

end Stage

end Progression.Rehearsal
