-- Callers that go away. A plan whose caller has gone takes no more turns,
-- but a task that it has detached goes on to its end, and nobody hears
-- what it has come to.
import Progression.Proofs.Interleaving
import Progression.Rehearsal.Script

namespace Progression

namespace Plan

/-! ## What is left of a plan -/

/-- The tasks that a plan has detached, and nothing else of it. -/
def leftover {α : Type} : Plan α → Plan (Except Unit Unit)
  | .both left right _ => .both left.leftover right.leftover fun _ => .done (.ok ())
  | .detach task _ => .detach task fun _ => .done (.ok ())
  | _ => .done (.ok ())

/-- A plan whose caller has gone away: it ends without an answer once its tasks have ended. -/
def abandoned {α : Type} (p : Plan (Option α)) : Plan (Option α) :=
  (p.leftover.map fun _ => none).forward

/-- The plan waits for no task of its own. -/
def Alone {α : Type} : Plan α → Prop
  | .both left right _ => left.Alone ∧ right.Alone
  | .detach .. => False
  | _ => True

variable {α : Type}

theorem Alone.map {β : Type} {p : Plan α} {f : α → β} (alone : p.Alone) : (p.map f).Alone := by
  cases p with
  | both => exact alone
  | detach => exact alone
  | _ => trivial

theorem leftover_of_alone {p : Plan α} (alone : p.Alone) :
    p.leftover.forward = .done (.ok ()) := by
  induction p with
  | done | overflow | call | newPayment => simp [leftover]
  | both left right next ihl ihr =>
    unfold leftover Plan.forward
    rw [ihl alone.1, ihr alone.2]
    simp [joint]
  | detach => cases alone

/-- A plan without tasks leaves nothing. -/
theorem abandoned_of_alone {p : Plan (Option α)} (alone : p.Alone) : p.abandoned = .done none := by
  unfold abandoned
  rw [forward_map, leftover_of_alone alone]
  rfl

/-- The task of a plan is left, and nobody waits for it. -/
theorem abandoned_detach (task : Plan TaskResult) (next : Option TaskResult → Plan (Option α)) :
    (Plan.detach task next).abandoned = (Plan.detach task fun _ => .done none).forward := by
  simp [abandoned, leftover, map, bind]

theorem map_map {β γ : Type} (p : Plan α) (f : α → β) (g : β → γ) :
    (p.map f).map g = p.map fun a => g (f a) := p.bind_bind _ _

end Plan

namespace System

variable {σ ι : Type} [DecidableEq ι] {Answer : ι → Type}

/-- The caller of a party goes away. -/
def leave (s : System σ fun i => Option (Answer i)) (i : ι) :
    System σ fun i => Option (Answer i) :=
  { s with plans := Function.update s.plans i (s.plans i).abandoned }

/-- Turns one after another, while callers may go away at any time. -/
inductive Traffic (col : Collaborators σ) (s : System σ fun i => Option (Answer i)) :
    History ι → System σ (fun i => Option (Answer i)) → Prop
  | start : Traffic col s [] s
  | turn {h : History ι} {t u : System σ fun i => Option (Answer i)} {i : ι} {d : Deed}
      (traffic : Traffic col s h t) (turn : Turn col t i d u) : Traffic col s (h ++ [(i, d)]) u
  | leave {h : History ι} {t : System σ fun i => Option (Answer i)} (traffic : Traffic col s h t)
      (i : ι) : Traffic col s h (t.leave i)

/-- Parties that each ask the service a question, and may go away. -/
def serving (lifetimes : Lifetimes) (asks : ι → Rehearsal.Question) (world : σ)
    (taken : Set PaymentId) : System σ fun _ : ι => Option (Except Refusal Json) :=
  ⟨world, taken, fun i => ((asks i).plan lifetimes).map some⟩

variable {col : Collaborators σ} {s t : System σ fun i => Option (Answer i)} {h : History ι} {i : ι}

/-- Callers need not go away. -/
theorem Run.traffic (run : Run col s h t) : Traffic col s h t := by
  induction run with
  | start => exact .start
  | turn _ turn ih => exact .turn ih turn

theorem leave_plan_self (s : System σ fun i => Option (Answer i)) (i : ι) :
    (s.leave i).plans i = (s.plans i).abandoned := Function.update_self ..

theorem leave_plan_of_ne (s : System σ fun i => Option (Answer i)) {i j : ι} (hne : j ≠ i) :
    (s.leave i).plans j = s.plans j := Function.update_of_ne hne ..

/-- What each turn of a party keeps, and the going away of its caller too, is kept by traffic. -/
theorem Traffic.party (Good : List Deed → Plan (Option (Answer i)) → Prop)
    (start : Good [] (s.plans i))
    (keep : ∀ ds p d q, Good ds p → p.Step d q → Good (ds ++ [d]) q)
    (gone : ∀ ds p, Good ds p → Good ds p.abandoned) (traffic : Traffic col s h t) :
    Good (h.of i) (t.plans i) := by
  induction traffic with
  | start => exact start
  | @turn h u t j d _ turn ih =>
    by_cases hj : j = i
    · subst hj
      rw [History.of_snoc_self]
      exact keep _ _ _ _ ih turn.step
    · rw [History.of_snoc_of_ne hj, turn.plan_of_ne (Ne.symm hj)]
      exact ih
  | @leave h t _ j ih =>
    by_cases hj : i = j
    · subst hj
      rw [leave_plan_self]
      exact gone _ _ ih
    · rw [leave_plan_of_ne t hj]
      exact ih

end System

end Progression
